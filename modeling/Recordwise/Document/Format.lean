/-
  Recordwise.Document.Format
  ──────────────────────────
  **The formats that settings are written in.**

  A format turns a text into a document.  It also decides about a list that a
  file puts in the place of a record: in JSON every item has to have a place
  there, in TOML the items behind the last place are passed over.  Main
  statements:

      members?_table       — a table is the same record in every format
      members?_list_append — in TOML, what stands behind the last place
                             changes nothing
-/
import Recordwise.Document.Toml.Line

namespace Recordwise.Document

/-! ## §1. Formats and their texts. -/

/-- A format of settings files. -/
inductive Format where
  /-- JSON. -/
  | json
  /-- TOML. -/
  | toml
  deriving Repr, DecidableEq

namespace Format

/-- The name of a format. -/
def name : Format → String
  | json => "JSON"
  | toml => "TOML"

/-- The format of the files with an extension. -/
def ofExtension? : String → Option Format
  | "json" => some json
  | "toml" => some toml
  | _ => none

/-- The document that a text is. -/
def document? : Format → List Char → Option Document
  | json => Json.document?
  | toml => Toml.document?

/-! ## §2. Records in a file. -/

/-- The members of a record that a file in the format states. -/
def members? (format : Format) (names : List String) : Document → Option Members
  | list items =>
    match format with
    | json => (list items).members? names
    | toml => some (names.zip items)
  | d => d.members? names

theorem members?_table (format : Format) (names : List String)
    (es : List (String × Document)) :
    format.members? names (table es) = (table es).members? names := rfl

theorem members?_list_append {names : List String} {items : List Document}
    (h : items.length = names.length) (more : List Document) :
    toml.members? names (list (items ++ more)) = toml.members? names (list items) := by
  have zipped : names.zip (items ++ more) = names.zip items := calc
    names.zip (items ++ more) = (names ++ []).zip (items ++ more) := by rw [List.append_nil]
    _ = names.zip items ++ [].zip more := List.zip_append h.symm
    _ = names.zip items := List.append_nil _
  simp [members?, zipped]

end Format

end Recordwise.Document
