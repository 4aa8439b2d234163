/-
  Recordwise.Binding
  ──────────────────
  **The named values of one record, in order of first arrival.**

  A binding keeps its entries in a list and, beside it, an index from names
  to positions.  A new name goes to the end; a name that is already bound
  keeps its position and takes the new value.  Main statements:

      index_insert_of_bound   — binding a bound name leaves the index alone
      entries_insert_of_bound — and changes the entry at its place
      names_insert_of_bound   — so it leaves the order of the names alone
      index_insert_of_fresh   — a fresh name is indexed behind the last place
      entries_insert_of_fresh — where its entry comes
-/
import Recordwise.Value

namespace Recordwise

/-- Named values with an index of their positions. -/
structure Binding where
  /-- The names and values, in order of first arrival. -/
  entries : List (String × Value)
  /-- The position of each name in `entries`. -/
  index : List (String × Nat)
  deriving DecidableEq

namespace Binding

/-! ## §1. Operations. -/

/-- The binding without entries. -/
def empty : Binding := ⟨[], []⟩

instance : EmptyCollection Binding := ⟨empty⟩
instance : Inhabited Binding := ⟨empty⟩

/-- Bind a name, in place when it is already bound. -/
def insert (b : Binding) (name : String) (v : Value) : Binding :=
  match b.index.lookup name with
  | some i => { b with entries := b.entries.modify i fun e => (e.1, v) }
  | none =>
    { entries := b.entries ++ [(name, v)], index := b.index ++ [(name, b.entries.length)] }

/-- The value of a name. -/
def get? (b : Binding) (name : String) : Option Value :=
  match b.index.lookup name with
  | some i => b.entries[i]?.map (·.2)
  | none => none

/-- Whether a name is bound, be it to null. -/
def contains (b : Binding) (name : String) : Bool := (b.index.lookup name).isSome

/-- The number of names. -/
def size (b : Binding) : Nat := b.entries.length

/-- Whether no name is bound. -/
def isEmpty (b : Binding) : Bool := b.entries.isEmpty

/-- The names and values, in order of first arrival. -/
def toList (b : Binding) : List (String × Value) := b.entries

/-- The names, in order of first arrival. -/
def names (b : Binding) : List String := b.entries.map (·.1)

/-- Bind the pairs one after the other. -/
def ofList (pairs : List (String × Value)) : Binding :=
  pairs.foldl (fun b p => b.insert p.1 p.2) empty

/-! ## §2. What binding a name does. -/

section Insert

variable {b : Binding} {name : String} {v : Value}

theorem index_insert_of_bound {i : Nat} (h : b.index.lookup name = some i) :
    (b.insert name v).index = b.index := by
  simp only [insert, h]

theorem entries_insert_of_bound {i : Nat} (h : b.index.lookup name = some i) :
    (b.insert name v).entries = b.entries.modify i fun e => (e.1, v) := by
  simp only [insert, h]

theorem index_insert_of_fresh (h : b.index.lookup name = none) :
    (b.insert name v).index = b.index ++ [(name, b.entries.length)] := by
  simp only [insert, h]

theorem entries_insert_of_fresh (h : b.index.lookup name = none) :
    (b.insert name v).entries = b.entries ++ [(name, v)] := by
  simp only [insert, h]

theorem names_insert_of_bound {i : Nat} (h : b.index.lookup name = some i) :
    (b.insert name v).names = b.names := by
  unfold names
  rw [entries_insert_of_bound h]
  apply List.ext_getElem?
  intro k
  simp only [List.getElem?_map, List.getElem?_modify]
  cases b.entries[k]? with
  | none => rfl
  | some e => by_cases hk : i = k <;> simp [hk]

theorem names_insert_of_fresh (h : b.index.lookup name = none) :
    (b.insert name v).names = b.names ++ [name] := by
  unfold names
  rw [entries_insert_of_fresh h, List.map_append]
  rfl

end Insert

end Binding

end Recordwise
