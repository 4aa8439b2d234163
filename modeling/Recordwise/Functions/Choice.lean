/-
  Recordwise.Functions.Choice
  ───────────────────────────
  **The functions that choose between values or change their kind.**

  Main statements:

      coalesce_null_cons — null arguments are passed over
      toNumber_integer   — an integer is a number already
-/
import Recordwise.Functions.Numeric
import Recordwise.Functions.Text

namespace Recordwise.Functions

/-- The first argument that is not null. -/
def coalesce (args : List Value) : Except Failure Value :=
  .ok ((args.find? fun v => !v.isNull).getD .null)

/-- The first argument, or the second when the first is null or an empty
text. -/
def ifNull (args : List Value) : Except Failure Value :=
  let other := args[1]?.getD .null
  match args.head? with
  | none | some .null | some (.text "") => .ok other
  | some v => .ok v

/-- The text of a value. -/
def toText : List Value → Except Failure Value :=
  onText "to_string" fun cs => .text (String.ofList cs)

/-- The number of a value; numbers stay as they are. -/
def toNumber (args : List Value) : Except Failure Value :=
  match args.head? with
  | some (.integer n) => .ok (.integer n)
  | some (.float x) => .ok (.float x)
  | _ => onNumber "to_number" numberValue args

theorem coalesce_null_cons (args : List Value) : coalesce (.null :: args) = coalesce args := rfl

theorem toNumber_integer (n : Int64) (rest : List Value) :
    toNumber (.integer n :: rest) = .ok (.integer n) := rfl

end Recordwise.Functions
