/-
  Recordwise.Settings.Document
  ────────────────────────────
  **Fields, schemas and settings as documents.**

  Every setting has a key and, but for a field's name and a schema's format
  and fields, a value that holds when the key is missing.  What is written
  states every setting.  A schema is read as a whole before its format is
  known, so no part of it may lack a value, asked for or not.  Main
  statements:

      Field.ofDocument?_document    — a field that is written reads back
      Schema.ofDocument?_document   — and so does a schema
      Settings.ofDocument?_document — and so do settings
-/
import Recordwise.Document.Format
import Recordwise.Schema
import Recordwise.Settings.Basic

namespace Recordwise

/-! ## §1. Fields. -/

namespace Field

/-- The keys of a field, in the order of their places. -/
def keys : List String := ["name", "default_value", "required"]

/-- The field that a document describes. -/
def ofDocument? (d : Document) : Option Field := do
  let m ← d.members? keys
  return {
    name := ← m.required "name" Document.text?
    default? := ← m.optional "default_value" Document.optionalText? none
    required := ← m.optional "required" Document.boolean? false }

/-- The document that describes a field. -/
def document (f : Field) : Document :=
  .table [("name", .text f.name), ("default_value", f.default?.elim .null .text),
    ("required", .boolean f.required)]

theorem ofDocument?_document (f : Field) : ofDocument? f.document = some f := by
  obtain ⟨name, default?, required⟩ := f
  cases default? <;> rfl

theorem isValid_document (f : Field) : f.document.isValid = true := by
  obtain ⟨name, default?, required⟩ := f
  cases default? <;> rfl

end Field

/-! ## §2. Schemas. -/

namespace Schema

/-- The keys of a delimited schema, in the order of their places. -/
def delimitedKeys : List String := ["charset", "delimiter", "escape_char", "fields"]

/-- The keys of a keyed schema, in the order of their places. -/
def keyedKeys : List String := ["charset", "entry_delimiter", "kv_delimiter", "fields"]

/-- The schema that a document in a named format describes. -/
def ofBody? (format : String) (body : Document) : Option Schema :=
  if format = "csv" then do
    let m ← body.members? delimitedKeys
    let charset ← m.optional "charset" Document.text? "UTF-8"
    let delimiter ← m.optional "delimiter" Document.char? ','
    let esc ← m.optional "escape_char" Document.char? '\\'
    let fields ← m.required "fields" (Document.list? Field.ofDocument?)
    return ⟨charset, .delimited delimiter esc, fields⟩
  else if format = "kv" then do
    let m ← body.members? keyedKeys
    let charset ← m.optional "charset" Document.text? "UTF-8"
    let entry ← m.optional "entry_delimiter" Document.char? '&'
    let pair ← m.optional "kv_delimiter" Document.char? '='
    let fields ← m.required "fields" (Document.list? Field.ofDocument?)
    return ⟨charset, .keyed entry pair, fields⟩
  else none

/-- The schema that a document describes. -/
def ofDocument? (d : Document) : Option Schema :=
  if d.isValid then do
    let (format, body) ← d.variant? "format"
    ofBody? (← format.text?) body
  else none

/-- The document that describes a schema. -/
def document (s : Schema) : Document :=
  let fields : Document := .list (s.fields.map Field.document)
  match s.layout with
  | .delimited delimiter esc =>
    .table [("format", .text "csv"), ("charset", .text s.charset),
      ("delimiter", .text (String.singleton delimiter)),
      ("escape_char", .text (String.singleton esc)), ("fields", fields)]
  | .keyed entry pair =>
    .table [("format", .text "kv"), ("charset", .text s.charset),
      ("entry_delimiter", .text (String.singleton entry)),
      ("kv_delimiter", .text (String.singleton pair)), ("fields", fields)]

theorem areValid_map_document (fs : List Field) :
    Document.areValid (fs.map Field.document) = true := by
  induction fs with
  | nil => rfl
  | cons f fs ih => simp [Document.areValid, Field.isValid_document, ih]

/-- **A schema that is written reads back.** -/
theorem ofDocument?_document (s : Schema) : ofDocument? s.document = some s := by
  obtain ⟨charset, layout, fields⟩ := s
  cases layout <;>
    simp [ofDocument?, document, Document.isValid, Document.entriesValid, areValid_map_document,
      Document.variant?, Document.text?, ofBody?, Document.members?, Document.knownEntries?,
      delimitedKeys, keyedKeys, Document.Members.optional, Document.Members.required,
      List.lookup_cons, Document.char?,
      Document.list?_list_map Field.ofDocument?_document]

end Schema

/-! ## §3. Settings. -/

namespace Settings

/-- The keys of settings, in the order of their places. -/
def keys : List String := ["transform_sql", "time_zone", "date_formats"]

/-- The settings that a document in a format describes. -/
def ofDocument? (format : Document.Format) (d : Document) : Option Settings := do
  let m ← format.members? keys d
  return {
    statement := ← m.optional "transform_sql" Document.text? ""
    zone := ← m.optional "time_zone" Document.text? "UTC"
    formats := ← m.optional "date_formats" (Document.list? Document.text?) defaultFormats }

/-- The document that describes settings. -/
def document (s : Settings) : Document :=
  .table [("transform_sql", .text s.statement), ("time_zone", .text s.zone),
    ("date_formats", .list (s.formats.map .text))]

/-- **Settings that are written read back.** -/
theorem ofDocument?_document (format : Document.Format) (s : Settings) :
    ofDocument? format s.document = some s := by
  have text (t : String) : (Document.text t).text? = some t := rfl
  simp [ofDocument?, document, Document.Format.members?_table, Document.members?,
    Document.knownEntries?, keys,
    Document.Members.optional, List.lookup_cons, Document.text?,
    Document.list?_list_map text]

end Settings

end Recordwise
