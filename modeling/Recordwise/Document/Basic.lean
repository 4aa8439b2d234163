/-
  Recordwise.Document.Basic
  ─────────────────────────
  **Documents: what a settings file says, whatever its format.**

  A document is built from null, truth values, numbers, dates and times,
  texts, lists and tables.  No setting is a number or a date, so a document
  keeps no value of these.  `members?` takes a document as a record with known
  names: a table gives each member by its key, a list by its place, a date or
  a time gives none.  Keys that are not known are passed over; a known key
  that stands twice is refused.  Main statements:

      list?_list_map       — a list whose items read back reads back
      members?_of_unknown  — an unknown key changes nothing
      members?_eq_none     — a known key that stands again is refused
-/

namespace Recordwise

/-! ## §1. Documents. -/

/-- What a settings file says. -/
inductive Document where
  /-- Nothing. -/
  | null
  /-- A truth value. -/
  | boolean (b : Bool)
  /-- A number. -/
  | number
  /-- A date, a time of day, or both. -/
  | moment
  /-- A text. -/
  | text (s : String)
  /-- Documents in order. -/
  | list (items : List Document)
  /-- Documents under keys, in the order of the file. -/
  | table (entries : List (String × Document))
  /-- Something that is written by the rules of the format and has no value,
  such as a number out of range. -/
  | invalid
  deriving Repr

namespace Document

instance : Inhabited Document := ⟨null⟩

mutual

/-- Whether every part of a document has a value. -/
def isValid : Document → Bool
  | invalid => false
  | list items => areValid items
  | table entries => entriesValid entries
  | _ => true

/-- Whether every part of the documents of a list has a value. -/
def areValid : List Document → Bool
  | [] => true
  | d :: ds => d.isValid && areValid ds

/-- Whether every part of the documents of a table has a value. -/
def entriesValid : List (String × Document) → Bool
  | [] => true
  | (_, d) :: es => d.isValid && entriesValid es

end

/-! ## §2. Single values. -/

/-- The text of a document that is one. -/
def text? : Document → Option String
  | text s => some s
  | _ => none

/-- The truth value of a document that is one. -/
def boolean? : Document → Option Bool
  | boolean b => some b
  | _ => none

/-- The character of a document that is a text of one character. -/
def char? : Document → Option Char
  | text s =>
    match s.toList with
    | [c] => some c
    | _ => none
  | _ => none

/-- A text, or nothing for null. -/
def optionalText? : Document → Option (Option String)
  | null => some none
  | text s => some (some s)
  | _ => none

/-- The items of a list, each read by `read`. -/
def list? {α : Type} (read : Document → Option α) : Document → Option (List α)
  | list items => items.mapM read
  | _ => none

theorem list?_list_map {α : Type} {read : Document → Option α} {write : α → Document}
    (h : ∀ a, read (write a) = some a) (as : List α) :
    (list (as.map write)).list? read = some as := by
  have : (as.map write).mapM read = some as := by
    induction as with
    | nil => rfl
    | cons a as ih => rw [List.map_cons, List.mapM_cons, h, ih]; rfl
  exact this

/-! ## §3. Records. -/

/-- The members of a record that are given, by name. -/
abbrev Members : Type := List (String × Document)

/-- The entries with a known key; none of these keys may stand in `seen` or
twice. -/
def knownEntries? (names seen : List String) : List (String × Document) → Option Members
  | [] => some []
  | (k, d) :: es =>
    if k ∈ names then
      if k ∈ seen then none
      else (knownEntries? names (k :: seen) es).map ((k, d) :: ·)
    else knownEntries? names seen es

/-- The members of a record: of a table by key, of a list by place.  A date or
a time is a record whose members are not known. -/
def members? (names : List String) : Document → Option Members
  | table entries => knownEntries? names [] entries
  | list items => if items.length ≤ names.length then some (names.zip items) else none
  | moment => some []
  | _ => none

/-- A member that has to be given. -/
def Members.required {α : Type} (m : Members) (name : String) (read : Document → Option α) :
    Option α :=
  (m.lookup name).bind read

/-- A member that has a value when it is not given. -/
def Members.optional {α : Type} (m : Members) (name : String) (read : Document → Option α)
    (absent : α) : Option α :=
  match m.lookup name with
  | some d => read d
  | none => some absent

/-- Split the member off that says which kind of record a document is: under
its key in a table, in the first place of a list. -/
def variant? (name : String) : Document → Option (Document × Document)
  | table entries =>
    match entries.filter (·.1 == name) with
    | [(_, d)] => some (d, table (entries.filter (·.1 != name)))
    | _ => none
  | list (d :: ds) => some (d, list ds)
  | _ => none

/-! ## §4. Known and unknown keys. -/

theorem members?_of_unknown {names : List String} {k : String} (d : Document)
    (es : List (String × Document)) (h : k ∉ names) :
    (table ((k, d) :: es)).members? names = (table es).members? names := by
  simp [members?, knownEntries?, h]

theorem members?_eq_none {names : List String} {k : String} (d e : Document)
    (es : List (String × Document)) (h : k ∈ names) :
    (table ((k, d) :: (k, e) :: es)).members? names = none := by
  simp [members?, knownEntries?, h]

end Document

end Recordwise
