/-
  Recordwise.Value
  ────────────────
  **The scalar values that flow through evaluation.**

  A value is null, a truth value, a 64-bit integer, a binary64 number or a
  text.  Three views read a value as something else:

      text?       — its text; only null has none
      asFloat?    — its number; texts are trimmed and read
      asInteger?  — its integer; a float or a text must be integral

  Main statements:

      text?_eq_none_iff   — null alone has no text
      asInteger?_integer  — an integer is read as itself
-/
import Recordwise.Decimal.Reading
import Recordwise.Text.Blank

namespace Recordwise

/-! ## §1. Values and their text. -/

/-- A scalar value. -/
inductive Value where
  /-- Absent. -/
  | null
  /-- A truth value. -/
  | boolean (b : Bool)
  /-- A 64-bit integer. -/
  | integer (n : Int64)
  /-- A binary64 number. -/
  | float (x : Float)
  /-- A text. -/
  | text (s : String)
  deriving DecidableEq

namespace Value

instance : Inhabited Value := ⟨null⟩

/-- Whether the value is null. -/
def isNull : Value → Bool
  | null => true
  | _ => false

/-- The name of the kind of value. -/
def typeName : Value → String
  | null => "null"
  | boolean _ => "boolean"
  | integer _ => "integer"
  | float _ => "float"
  | text _ => "string"

/-- The text of a value as a record holds it; null is empty. -/
def render : Value → String
  | null => ""
  | boolean true => "true"
  | boolean false => "false"
  | integer n => String.ofList (Decimal.intText n.toInt)
  | float x => String.ofList (Decimal.floatText x)
  | text s => s

/-- The text of a value that is not null. -/
def text? : Value → Option String
  | null => none
  | v => some v.render

theorem text?_eq_none_iff {v : Value} : v.text? = none ↔ v = null := by
  cases v <;> simp [text?]

theorem text?_of_ne_null {v : Value} (h : v ≠ null) : v.text? = some v.render := by
  cases v <;> simp_all [text?]

/-! ## §2. Numbers. -/

/-- The number of a value. Truth values count as one and zero. -/
def asFloat? : Value → Option Float
  | null => none
  | boolean b => some (if b then 1.0 else 0.0)
  | integer n => some (Decimal.ofInt64 n)
  | float x => some x
  | text s => Decimal.float? (Text.trim s.toList)

/-- The 64-bit integer of a float without a fraction part, clamped. -/
def integral? (x : Float) : Option Int64 :=
  if Decimal.isIntegral x then some (Decimal.toInt64 x) else none

/-- The integer of a value.  A text is read as an integer first and as an
integral float otherwise; truth values have none. -/
def asInteger? : Value → Option Int64
  | integer n => some n
  | float x => integral? x
  | text s =>
    let cs := Text.trim s.toList
    (Decimal.int64? cs).orElse fun _ => (Decimal.float? cs).bind integral?
  | _ => none

theorem asInteger?_integer (n : Int64) : (integer n).asInteger? = some n := rfl

/-- Whether a value takes part in comparisons as a number: integers, floats
and the texts that read as floats. -/
def isNumeric : Value → Bool
  | integer _ => true
  | float _ => true
  | text s => (Decimal.float? (Text.trim s.toList)).isSome
  | _ => false

end Value

end Recordwise
