/-
  Recordwise.Document.Toml.Line
  ─────────────────────────────
  **The lines of a file in TOML.**

  A line opens a table, opens a row, or gives a key a value; blank lines and
  comments say nothing.  A value may itself span lines, as a list or as a
  string between three quotes.  A key has at most 79 parts, and at most 79
  lists and inline tables stand inside one another.  Main statements:

      lineEnd?_comment  — a comment runs to the end of its line
      length_le_of_key? — no key is longer than the limit
-/
import Recordwise.Document.Toml.Scalar
import Recordwise.Document.Toml.Tree

namespace Recordwise.Document.Toml

/-- What a line says. -/
inductive Line where
  /-- Open the table of a key. -/
  | table (key : List String)
  /-- Add a row to the rows of a key. -/
  | row (key : List String)
  /-- Give a key a value in the table that is open. -/
  | entry (key : List String) (value : Document)
  deriving Repr

/-! ## §1. Comments and line ends. -/

/-- Drop the comment in front, if there is one. -/
def skipComment : List Char → List Char
  | '#' :: r => r.dropWhile isPlain
  | cs => cs

/-- The rest behind the end of a line, with its spaces and its comment. -/
def lineEnd? (cs : List Char) : Option (List Char) :=
  match skipComment (skipSpace cs) with
  | [] => some []
  | r => newline? r

/-- A comment runs to the end of its line. -/
theorem lineEnd?_comment {cs rest : List Char} (h : ∀ c ∈ cs, isPlain c = true) :
    lineEnd? ('#' :: cs ++ '\n' :: rest) = some rest := by
  have stop : isPlain '\n' = false := by decide
  have skipped : (cs ++ '\n' :: rest).dropWhile isPlain = '\n' :: rest := by
    rw [List.dropWhile_append_of_pos h, List.dropWhile_cons_of_neg (by simp [stop])]
  have start : skipSpace ('#' :: (cs ++ '\n' :: rest)) = '#' :: (cs ++ '\n' :: rest) := rfl
  simp [lineEnd?, start, skipComment, skipped, newline?]

/-- Drop the spaces, comments and line breaks in front. -/
def skipBetween : (fuel : Nat) → List Char → List Char
  | 0, cs => cs
  | fuel + 1, cs =>
    let r := skipComment (skipSpace cs)
    match newline? r with
    | some t => skipBetween fuel t
    | none => r

/-! ## §2. Keys. -/

/-- Whether a key without quotes can hold a character. -/
def isKeyPart (c : Char) : Bool := c.isAlphanum || c == '_' || c == '-'

/-- The part of a key in front, and the rest behind it. -/
def keyPart? (cs : List Char) : Option (String × List Char) :=
  match cs with
  | '"' :: r => (basic? (r.length + 1) r).map fun p => (String.ofList p.1, p.2)
  | '\'' :: r => (literal? r).map fun p => (String.ofList p.1, p.2)
  | _ =>
    match cs.takeWhile isKeyPart with
    | [] => none
    | w => some (String.ofList w, cs.dropWhile isKeyPart)

/-- The number of parts that a key may have, and of lists and inline tables
that may stand inside one another. -/
def maxDepth : Nat := 79

/-- The key in front, its parts between points, and the rest behind it and
its spaces; `parts` bounds the parts. -/
def keyWithin? : (parts : Nat) → List Char → Option (List String × List Char)
  | 0, _ => none
  | parts + 1, cs => do
    let (k, r) ← keyPart? (skipSpace cs)
    match skipSpace r with
    | '.' :: r =>
      let (ks, r) ← keyWithin? parts r
      return (k :: ks, r)
    | r => return ([k], r)

/-- The key in front, and the rest behind it and its spaces. -/
def key? (cs : List Char) : Option (List String × List Char) := keyWithin? maxDepth cs

theorem length_le_of_keyWithin? {parts : Nat} {cs rest : List Char} {key : List String}
    (h : keyWithin? parts cs = some (key, rest)) : key.length ≤ parts := by
  induction parts generalizing cs key rest with
  | zero => simp [keyWithin?] at h
  | succ parts ih =>
    simp only [keyWithin?, Option.bind_eq_bind, Option.bind_eq_some_iff] at h
    obtain ⟨⟨k, r⟩, -, h⟩ := h
    split at h
    · simp only [Option.bind_eq_some_iff] at h
      obtain ⟨⟨ks, r⟩, tail, h⟩ := h
      obtain ⟨rfl, -⟩ : k :: ks = key ∧ _ := by simpa using h
      simpa using ih tail
    · obtain ⟨rfl, -⟩ : [k] = key ∧ _ := by simpa using h
      simp

/-- No key is longer than the limit. -/
theorem length_le_of_key? {cs rest : List Char} {key : List String}
    (h : key? cs = some (key, rest)) : key.length ≤ maxDepth :=
  length_le_of_keyWithin? h

/-! ## §3. Values. -/

/-- The table that pairs between braces are. -/
def inlineTable? (pairs : List (List String × Document)) : Option Document :=
  (pairs.foldlM (fun t p => Tree.assign? p.1 p.2 t) (Tree.fresh .header)).map Tree.document

mutual

/-- The value in front, and the rest behind it.  `fuel` bounds the parts that
are read, `depth` the lists and inline tables inside one another. -/
def value? : (fuel depth : Nat) → List Char → Option (Document × List Char)
  | 0, _, _ => none
  | fuel + 1, depth, cs =>
    match cs, depth with
    | '[' :: _, 0 => none
    | '{' :: _, 0 => none
    | '[' :: r, depth + 1 =>
      (items? fuel depth (skipBetween fuel r)).map fun p => (.list p.1, p.2)
    | '{' :: r, depth + 1 =>
      match skipSpace r with
      | '}' :: r => some (.table [], r)
      | r => do
        let (ps, r) ← pairs? fuel depth r
        return (← inlineTable? ps, r)
    | '"' :: _, _ => (string? cs).map fun p => (.text (String.ofList p.1), p.2)
    | '\'' :: _, _ => (string? cs).map fun p => (.text (String.ofList p.1), p.2)
    | 't' :: 'r' :: 'u' :: 'e' :: r, _ => some (.boolean true, r)
    | 'f' :: 'a' :: 'l' :: 's' :: 'e' :: r, _ => some (.boolean false, r)
    | _, _ => number? cs

/-- The items of a list up to its bracket; a comma may stand behind the last
one. -/
def items? : (fuel depth : Nat) → List Char → Option (List Document × List Char)
  | 0, _, _ => none
  | fuel + 1, depth, cs =>
    match cs with
    | ']' :: r => some ([], r)
    | _ => do
      let (d, r) ← value? fuel depth cs
      match skipBetween fuel r with
      | ']' :: r => return ([d], r)
      | ',' :: r =>
        let (ds, r) ← items? fuel depth (skipBetween fuel r)
        return (d :: ds, r)
      | _ => none

/-- The pairs of an inline table up to its brace. -/
def pairs? : (fuel depth : Nat) → List Char →
    Option (List (List String × Document) × List Char)
  | 0, _, _ => none
  | fuel + 1, depth, cs => do
    let (k, r) ← key? cs
    match r with
    | '=' :: r =>
      let (d, r) ← value? fuel depth (skipSpace r)
      match skipSpace r with
      | '}' :: r => return ([(k, d)], r)
      | ',' :: r =>
        let (ps, r) ← pairs? fuel depth r
        return ((k, d) :: ps, r)
      | _ => none
    | _ => none

end

/-! ## §4. Lines. -/

/-- The line in front, which is not blank, and the rest behind its end. -/
def line? (fuel : Nat) (cs : List Char) : Option (Line × List Char) :=
  match cs with
  | '[' :: '[' :: r => do
    let (k, r) ← key? r
    match r with
    | ']' :: ']' :: r => return (.row k, ← lineEnd? r)
    | _ => none
  | '[' :: r => do
    let (k, r) ← key? r
    match r with
    | ']' :: r => return (.table k, ← lineEnd? r)
    | _ => none
  | _ => do
    let (k, r) ← key? cs
    match r with
    | '=' :: r =>
      let (d, r) ← value? fuel maxDepth (skipSpace r)
      return (.entry k d, ← lineEnd? r)
    | _ => none

/-- The lines of a text; `fuel` bounds their number and their parts. -/
def lines? : (fuel : Nat) → List Char → Option (List Line)
  | 0, _ => none
  | fuel + 1, cs =>
    match skipBetween fuel cs with
    | [] => some []
    | r => do
      let (l, r) ← line? fuel r
      return l :: (← lines? fuel r)

/-! ## §5. Files. -/

/-- A file as read so far: the key of the open table, and the whole. -/
abbrev Progress : Type := List String × Tree

/-- Add a line to a file. -/
def addLine? (p : Progress) (line : Line) : Option Progress := do
  match line with
  | .table key =>
    let k ← key.getLast?
    return (key, ← p.2.descend? .passed (Tree.openTable? k) key.dropLast)
  | .row key =>
    let k ← key.getLast?
    return (key, ← p.2.descend? .passed (Tree.openRow? k) key.dropLast)
  | .entry key d => return (p.1, ← p.2.descend? .passed (Tree.assign? key d) p.1)

/-- The document that a text is; a byte-order mark in front is passed over. -/
def document? (cs : List Char) : Option Document := do
  let text := if cs.head? = some '\uFEFF' then cs.drop 1 else cs
  let ls ← lines? (2 * text.length + 2) text
  let (_, t) ← ls.foldlM addLine? ([], Tree.fresh .header)
  return t.document

end Recordwise.Document.Toml
