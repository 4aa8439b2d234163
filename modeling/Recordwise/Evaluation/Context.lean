/-
  Recordwise.Evaluation.Context
  ─────────────────────────────
  **What evaluation may consult besides the record.**

  A context fixes the zone that instants are read in and the date formats
  that texts are tried with.  It is built once and used for every record.
  Main statement:

      withFormats_nil — a context needs at least one format
-/
import Recordwise.DatePattern.Reading
import Recordwise.Failure
import Recordwise.Zone.Basic

namespace Recordwise

/-- The settings of evaluation. -/
structure Context where
  /-- The zone that instants are read in. -/
  zone : Zone
  /-- The formats that a date is tried with, in order. -/
  formats : List DatePattern

/-- The formats that a date is tried with when no others are given. -/
def defaultFormats : List String :=
  ["yyyy-MM-dd", "yyyy-MM-dd HH:mm:ss", "yyyy/MM/dd", "yyyy/MM/dd HH:mm:ss", "yyyyMMdd",
    "yyyyMMddHHmmss"]

namespace Context

/-- The pattern of a format setting, or the refusal of the setting. -/
def formatPattern (format : String) : Except Failure DatePattern :=
  match DatePattern.compile format with
  | .ok p => .ok p
  | .error e =>
    .error (.configuration ("Invalid date format '" ++ format ++ "': " ++ e.message format)
      (some "date_formats"))

/-- The context of a zone with the given formats, of which there must be
one. -/
def withFormats (zone : Zone) (formats : List String) : Except Failure Context :=
  if formats.isEmpty then
    .error (.configuration "At least one default date format is required" (some "date_formats"))
  else (formats.mapM formatPattern).map fun ps => ⟨zone, ps⟩

/-- The context of a zone with the default formats. -/
def ofZone (zone : Zone) : Context :=
  ⟨zone, defaultFormats.filterMap fun f => (DatePattern.compile f).toOption⟩

theorem withFormats_nil (zone : Zone) :
    withFormats zone [] =
      .error (.configuration "At least one default date format is required"
        (some "date_formats")) := rfl

end Context

end Recordwise
