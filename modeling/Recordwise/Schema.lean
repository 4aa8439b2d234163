/-
  Recordwise.Schema
  ─────────────────
  **How raw records are laid out, on either side of a transform.**

  A schema names the fields of a record, the character set and one of two
  layouts.  In the delimited layout the values stand in field order between
  delimiters; in the keyed layout each value stands behind its field's name.
  `Schema.codec` turns a schema whose settings fit together into a codec,
  and refuses the others.  Main statement:

      checkFields_eq_ok_iff — the accepted field lists are those with
                              distinct names, none of them empty
-/
import Recordwise.Charset

namespace Recordwise

/-! ## §1. Fields and layouts. -/

/-- A field of a record. -/
structure Field where
  /-- The name, under which the field's value is bound. -/
  name : String
  /-- What is written when no value is bound. -/
  default? : Option String := none
  /-- Whether a record without a value and a default is refused. -/
  required : Bool := false
  deriving Repr, DecidableEq

/-- How the fields of a record stand in its text. -/
inductive Layout where
  /-- Values between delimiters; an escape character takes the next character
  literally. -/
  | delimited (delimiter escape : Char)
  /-- `name=value` entries; a backslash takes the next character
  literally. -/
  | keyed (entry pair : Char)
  deriving Repr, DecidableEq

/-- The delimited layout with a comma and a backslash. -/
def Layout.defaultDelimited : Layout := .delimited ',' '\\'

/-- The keyed layout of query strings. -/
def Layout.defaultKeyed : Layout := .keyed '&' '='

/-- The settings of one side of a transform. -/
structure Schema where
  /-- The name of the character set. -/
  charset : String := "UTF-8"
  /-- How fields stand in the text. -/
  layout : Layout
  /-- The fields, in order. -/
  fields : List Field
  deriving Repr, DecidableEq

/-- A schema whose settings fit together. -/
structure Codec where
  /-- The character set. -/
  charset : Charset
  /-- How fields stand in the text. -/
  layout : Layout
  /-- The fields, in order. -/
  fields : List Field
  deriving Repr, DecidableEq

/-! ## §2. Which schemas are accepted. -/

namespace Schema

/-- Refuse an empty name and the second occurrence of a name; `seen` are the
names before the list. -/
def checkFieldsAfter (seen : List String) : List Field → Except Failure Unit
  | [] => .ok ()
  | f :: fs =>
    if f.name = "" then
      .error (.configuration "Field name must not be empty" (some "fields"))
    else if f.name ∈ seen then
      .error (.configuration ("Duplicate field name '" ++ f.name ++ "'") (some "fields"))
    else checkFieldsAfter (f.name :: seen) fs

/-- Refuse a field list with an empty name or a name that occurs twice. -/
def checkFields (fields : List Field) : Except Failure Unit := checkFieldsAfter [] fields

/-- Refuse a layout whose two special characters are the same. -/
def checkLayout : Layout → Except Failure Unit
  | .delimited delimiter escape =>
    if delimiter = escape then
      .error (.configuration "Delimiter and escape character must differ" (some "escape_char"))
    else .ok ()
  | .keyed entry pair =>
    if entry = pair then
      .error (.configuration "Entry and key/value delimiters must differ" (some "kv_delimiter"))
    else .ok ()

/-- The codec of a schema, or the first setting to blame: fields, layout,
character set. -/
def codec (s : Schema) : Except Failure Codec := do
  checkFields s.fields
  checkLayout s.layout
  let charset ← Charset.ofName s.charset
  return ⟨charset, s.layout, s.fields⟩

/-! ## §3. Accepted field lists. -/

theorem checkFieldsAfter_eq_ok_iff {seen : List String} {fs : List Field} :
    checkFieldsAfter seen fs = .ok () ↔
      (∀ f ∈ fs, f.name ≠ "" ∧ f.name ∉ seen) ∧ (fs.map (·.name)).Nodup := by
  induction fs generalizing seen with
  | nil => simp [checkFieldsAfter]
  | cons f fs ih =>
    by_cases he : f.name = ""
    · simp [checkFieldsAfter, he]
    · -- the name of `f` counts as seen for the fields behind it
      by_cases hs : f.name ∈ seen
      · simp [checkFieldsAfter, he, hs]
      · rw [checkFieldsAfter, if_neg he, if_neg hs, ih]
        simp only [List.mem_cons, List.map_cons, List.nodup_cons, forall_eq_or_imp, not_or,
          List.mem_map]
        constructor
        · rintro ⟨h, nd⟩
          refine ⟨⟨⟨he, hs⟩, fun g hg => ⟨(h g hg).1, (h g hg).2.2⟩⟩, ?_, nd⟩
          rintro ⟨g, hg, e⟩
          exact (h g hg).2.1 e
        · rintro ⟨⟨-, h⟩, hf, nd⟩
          exact ⟨fun g hg => ⟨(h g hg).1, fun e => hf ⟨g, hg, e⟩, (h g hg).2⟩, nd⟩

/-- **The accepted field lists have distinct names, none of them empty.** -/
theorem checkFields_eq_ok_iff {fs : List Field} :
    checkFields fs = .ok () ↔ (∀ f ∈ fs, f.name ≠ "") ∧ (fs.map (·.name)).Nodup := by
  simp [checkFields, checkFieldsAfter_eq_ok_iff]

end Schema

end Recordwise
