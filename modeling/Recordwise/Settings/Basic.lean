/-
  Recordwise.Settings.Basic
  ─────────────────────────
  **The settings of a transform.**

  Settings hold the statement's text, the name of the zone that instants are
  read in and the date formats.  They may be incomplete while they are put
  together; `check` says whether they can be used.  What zone a name means is
  for the database of zones to say that the settings are used with.  Main
  statement:

      check_of_blank — a statement of blanks alone is refused
-/
import Recordwise.Evaluation.Context
import Recordwise.Zone.Find

namespace Recordwise

/-- The settings of a transform. -/
structure Settings where
  /-- The text of the statement. -/
  statement : String := ""
  /-- The name of the zone. -/
  zone : String := "UTC"
  /-- The date formats, in the order in which they are tried. -/
  formats : List String := defaultFormats
  deriving Repr, DecidableEq

namespace Settings

/-- Settings with a statement and the defaults. -/
def ofStatement (statement : String) : Settings := { statement }

variable (zones : Zone.Database)

/-- Set the zone; an unknown name is refused. -/
def withZone (s : Settings) (name : String) : Except Failure Settings :=
  (Zone.ofName zones name).map fun _ => { s with zone := Text.trimmed name }

/-- Set the date formats. -/
def withFormats (s : Settings) (formats : List String) : Settings := { s with formats }

/-- Take the statement and the zone from the variables `<scope>_SQL` and
`<scope>_TIME_ZONE` of an environment, where they are set. -/
def override (s : Settings) (scope : String) (environment : List (String × String)) : Settings :=
  { s with
    statement := (environment.lookup (scope ++ "_SQL")).getD s.statement
    zone := (environment.lookup (scope ++ "_TIME_ZONE")).getD s.zone }

/-- The context of evaluation: the zone first, then the formats. -/
def context (s : Settings) : Except Failure Context := do
  let zone ← Zone.ofName zones s.zone
  Context.withFormats zone s.formats

/-- Refuse settings without a statement, or whose context cannot be made. -/
def check (s : Settings) : Except Failure Unit :=
  if Text.trim s.statement.toList = [] then
    .error (.configuration "Transform SQL must not be empty" (some "transform_sql"))
  else (s.context zones).map fun _ => ()

/-- The settings that an environment gives, checked. -/
def ofEnvironment (scope : String) (environment : List (String × String)) :
    Except Failure Settings := do
  let s := override {} scope environment
  s.check zones
  return s

theorem check_of_blank {s : Settings} (h : Text.trim s.statement.toList = []) :
    s.check zones =
      .error (.configuration "Transform SQL must not be empty" (some "transform_sql")) := by
  simp [check, h]

end Settings

end Recordwise
