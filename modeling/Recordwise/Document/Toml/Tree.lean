/-
  Recordwise.Document.Toml.Tree
  ─────────────────────────────
  **Tables that grow line by line.**

  A file in TOML adds to its tables with every line, and what a line may add
  to depends on how a table came about.  A table that a longer header or key
  brought into being may still be opened by a header of its own, once; one
  that dotted keys made takes further dotted keys alone; everything else may
  be written once.  Main statement:

      insert?_of_taken — a key that has a value takes no other
-/
import Recordwise.Document.Basic

namespace Recordwise.Document.Toml

/-! ## §1. Trees. -/

/-- How a table came about. -/
inductive Origin where
  /-- It has a header of its own, or is the file itself. -/
  | header
  /-- A longer header passed through it. -/
  | passed
  /-- A dotted key made it. -/
  | dotted
  deriving Repr, DecidableEq

/-- A document under construction. -/
inductive Tree where
  /-- A finished value. -/
  | leaf (d : Document)
  /-- A table that may still grow. -/
  | table (origin : Origin) (entries : List (String × Tree))
  /-- Tables in order, the last of which may still grow. -/
  | rows (tables : List Tree)

namespace Tree

/-- A table without entries. -/
def fresh (origin : Origin) : Tree := table origin []

mutual

/-- The document that a tree has grown to. -/
def document : Tree → Document
  | leaf d => d
  | table _ entries => .table (entryDocuments entries)
  | rows tables => .list (documents tables)

/-- The documents of trees. -/
def documents : List Tree → List Document
  | [] => []
  | t :: ts => t.document :: documents ts

/-- The documents of entries. -/
def entryDocuments : List (String × Tree) → List (String × Document)
  | [] => []
  | (k, t) :: es => (k, t.document) :: entryDocuments es

end

/-! ## §2. Growth. -/

/-- Put a tree under a key, in place of the one that stands there. -/
def put (entries : List (String × Tree)) (k : String) (t : Tree) : List (String × Tree) :=
  if entries.any (·.1 == k) then entries.map fun e => if e.1 = k then (k, t) else e
  else entries ++ [(k, t)]

/-- Change the table at the end of a path by `change`.  Tables on the way
that are missing come about as `made`; of rows the last one is on the way. -/
def descend? (made : Origin) (change : Tree → Option Tree) : List String → Tree → Option Tree
  | [], t => change t
  | k :: path, table origin entries =>
    match entries.lookup k with
    | none => do
      return table origin (put entries k (← descend? made change path (fresh made)))
    | some (table o es) =>
      -- a dotted key does not reach into a table with a header of its own
      if made = .dotted ∧ o = .header then none
      else do
        return table origin (put entries k (← descend? made change path (table o es)))
    | some (rows ts) => do
      let last ← descend? made change path (← ts.getLast?)
      return table origin (put entries k (rows (ts.dropLast ++ [last])))
    | some (leaf _) => none
  | _ :: _, _ => none

/-- Give a new key of a table a value; `dotted` when the table is reached by a
dotted key. -/
def insert? (dotted : Bool) (k : String) (d : Document) : Tree → Option Tree
  | table origin entries =>
    if decide (origin = .dotted) = dotted ∧ (entries.lookup k).isNone then
      some (table origin (entries ++ [(k, leaf d)]))
    else none
  | _ => none

/-- Open the table of a key by its header. -/
def openTable? (k : String) : Tree → Option Tree
  | table origin entries =>
    match entries.lookup k with
    | none => some (table origin (entries ++ [(k, fresh .header)]))
    | some (table .passed es) => some (table origin (put entries k (table .header es)))
    | _ => none
  | _ => none

/-- Add a row to the rows of a key. -/
def openRow? (k : String) : Tree → Option Tree
  | table origin entries =>
    match entries.lookup k with
    | none => some (table origin (entries ++ [(k, rows [fresh .header])]))
    | some (rows ts) => some (table origin (put entries k (rows (ts ++ [fresh .header]))))
    | _ => none
  | _ => none

/-- Give a dotted key, counted from a table, a value. -/
def assign? (key : List String) (d : Document) (t : Tree) : Option Tree := do
  let k ← key.getLast?
  descend? .dotted (insert? (1 < key.length) k d) key.dropLast t

theorem insert?_of_taken {origin : Origin} {entries : List (String × Tree)} {k : String}
    (h : (entries.lookup k).isSome) (dotted : Bool) (d : Document) :
    insert? dotted k d (table origin entries) = none := by
  cases e : entries.lookup k <;> simp_all [insert?]

end Tree

end Recordwise.Document.Toml
