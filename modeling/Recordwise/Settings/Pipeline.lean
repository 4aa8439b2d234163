/-
  Recordwise.Settings.Pipeline
  ────────────────────────────
  **Pipelines, and files that settings are loaded from.**

  A pipeline is everything that a transform is made of: its settings and a
  schema for either side.  Settings and pipelines are loaded from files in
  JSON or TOML, told apart by the end of the file's name.  A file has to
  exist and to be in UTF-8, whatever its name.  Main statement:

      load_of_unreadable — a file that cannot be read is refused, whatever its
                           name
-/
import Recordwise.Settings.Document
import Recordwise.Transform

namespace Recordwise

/-! ## §1. Pipelines. -/

/-- The settings of a transform and of both of its sides. -/
structure Pipeline where
  /-- The settings of the transform. -/
  settings : Settings
  /-- How records come in. -/
  source : Schema
  /-- How records go out. -/
  sink : Schema
  deriving Repr, DecidableEq

namespace Pipeline

/-- The keys of a pipeline, in the order of their places. -/
def keys : List String := ["transform", "source", "sink"]

/-- The pipeline that a document in a format describes. -/
def ofDocument? (format : Document.Format) (d : Document) : Option Pipeline := do
  let m ← format.members? keys d
  return {
    settings := ← m.required "transform" (Settings.ofDocument? format)
    source := ← m.required "source" Schema.ofDocument?
    sink := ← m.required "sink" Schema.ofDocument? }

/-- The document that describes a pipeline. -/
def document (p : Pipeline) : Document :=
  .table [("transform", p.settings.document), ("source", p.source.document),
    ("sink", p.sink.document)]

/-- **A pipeline that is written reads back.** -/
theorem ofDocument?_document (format : Document.Format) (p : Pipeline) :
    ofDocument? format p.document = some p := by
  simp [ofDocument?, document, Document.Format.members?_table, Document.members?,
    Document.knownEntries?, keys, Document.Members.required, List.lookup_cons,
    Settings.ofDocument?_document, Schema.ofDocument?_document]

/-- The transform of a pipeline, ready. -/
def create (zones : Zone.Database) (p : Pipeline) : Except Failure (Transform × List Log.Entry) :=
  Transform.create zones p.settings p.source p.sink

end Pipeline

/-! ## §2. Files. -/

/-- A file that settings are loaded from. -/
structure SettingsFile where
  /-- Its name. -/
  name : String
  /-- Its bytes, if it exists. -/
  bytes? : Option (List UInt8)
  deriving Repr, DecidableEq

namespace SettingsFile

/-- What follows the last point of the name, if there is one with something
in front of it. -/
def extension? (file : SettingsFile) : Option String :=
  let backward := file.name.toList.reverse
  match backward.dropWhile (· != '.') with
  | _ :: _ :: _ => some (String.ofList (backward.takeWhile (· != '.')).reverse)
  | _ => none

/-- The text of the file. -/
def text (file : SettingsFile) : Except Failure (List Char) :=
  let unreadable : Failure := .configuration "Failed to read config file" none
  match file.bytes? with
  | none => .error unreadable
  | some bytes =>
    match Text.Utf8.decode bytes with
    | .ok cs => .ok cs
    | .error _ => .error unreadable

/-- The format of the file, told by its name. -/
def format (file : SettingsFile) : Except Failure Document.Format :=
  match file.extension?.bind Document.Format.ofExtension? with
  | some f => .ok f
  | none =>
    .error
      (.configuration "Unsupported config file format (only JSON and TOML supported)" none)

/-- What the document in a file describes, as `read` takes it. -/
def load {α : Type} (read : Document.Format → Document → Option α) (file : SettingsFile) :
    Except Failure α := do
  let cs ← file.text
  let f ← file.format
  match (f.document? cs).bind (read f) with
  | some a => return a
  | none => .error (.configuration ("Failed to parse " ++ f.name ++ " config") none)

/-- The settings in a file, checked. -/
def settings (zones : Zone.Database) (file : SettingsFile) : Except Failure Settings := do
  let s ← file.load Settings.ofDocument?
  s.check zones
  return s

/-- The pipeline in a file, the settings of its transform checked. -/
def pipeline (zones : Zone.Database) (file : SettingsFile) : Except Failure Pipeline := do
  let p ← file.load Pipeline.ofDocument?
  p.settings.check zones
  return p

/-- A file that cannot be read is refused, whatever its name. -/
theorem load_of_unreadable {α : Type} {file : SettingsFile} {f : Failure}
    (h : file.text = .error f) (read : Document.Format → Document → Option α) :
    file.load read = .error f := by
  simp [load, h, bind, Except.bind]

end SettingsFile

end Recordwise
