/-
  Recordwise.Functions.Numeric
  ────────────────────────────
  **The functions on numbers.**

  All but `abs` of an integer compute in binary64.  A result that is integral
  and smaller than 2^63 in magnitude is an integer, any other a float.  Main
  statement:

      abs_integer — the magnitude of an integer is an integer
-/
import Recordwise.Functions.Argument

namespace Recordwise.Functions

/-- The value of a number: an integer if it is one of 64 bits. -/
def numberValue (x : Float) : Value :=
  if Decimal.isIntegral x && x.abs < 9223372036854775808.0 then .integer (Decimal.toInt64 x)
  else .float x

/-- Apply a function of one number. -/
def onNumber (function : String) (f : Float → Value) (args : List Value) :
    Except Failure Value :=
  (numberArg function args 0).map fun
    | some x => f x
    | none => .null

/-- Apply a function of two numbers; both are read before either is looked
at. -/
def onNumbers (function : String) (f : Float → Float → Except Failure Value)
    (args : List Value) : Except Failure Value := do
  let x? ← numberArg function args 0
  let y? ← numberArg function args 1
  match x?, y? with
  | some x, some y => f x y
  | _, _ => return .null

/-- The magnitude of an integer; that of the least one is the greatest. -/
def magnitude (n : Int64) : Int64 := Decimal.clampInt64 n.toInt.natAbs

/-- The magnitude of a number. -/
def abs (args : List Value) : Except Failure Value :=
  match args.head? with
  | some (.integer n) => .ok (.integer (magnitude n))
  | _ => onNumber "abs" (fun x => numberValue x.abs) args

/-- The power of ten with a natural exponent up to 18, which is exact. -/
def powerOfTen (k : Nat) : Float := Float.ofNat (Nat.pow 10 k)

/-- Round to a number of decimal places, negative ones to the left of the
point; a half goes away from zero. -/
def roundTo (x : Float) (places : Int) : Value :=
  -- within eighteen places the power of ten is exact
  let places := max (-18) (min 18 places)
  if places ≤ 0 then
    let unit := powerOfTen (-places).toNat
    numberValue (Decimal.nearest (x / unit) * unit)
  else
    let unit := powerOfTen places.toNat
    .float (Decimal.nearest (x * unit) / unit)

/-- Round a number, to an integer or to a number of places. -/
def round (args : List Value) : Except Failure Value := do
  let some x ← numberArg "round" args 0 | return .null
  if 1 < args.length then
    let some places ← integerArg "round" args 1 | return .null
    return roundTo x places.toInt
  else return roundTo x 0

/-- The least integer not below a number. -/
def ceil : List Value → Except Failure Value :=
  onNumber "ceil" fun x => numberValue (Decimal.ceiling x)

/-- The greatest integer not above a number. -/
def floor : List Value → Except Failure Value :=
  onNumber "floor" fun x => numberValue (Decimal.floor x)

/-- What truncated division leaves over. -/
def modulo : List Value → Except Failure Value :=
  onNumbers "mod" fun x y =>
    if y == 0.0 then .error (.value "mod" "division by zero")
    else .ok (numberValue (Decimal.remainder x y))

/-- A number raised to a power. -/
def power : List Value → Except Failure Value :=
  onNumbers "power" fun x y => .ok (numberValue (x.pow y))

/-- The lesser of two numbers; NaN gives way to the other. -/
def lesser (x y : Float) : Float :=
  if x.isNaN then y else if y.isNaN then x else if y < x then y else x

/-- The greater of two numbers; NaN gives way to the other. -/
def greater (x y : Float) : Float :=
  if x.isNaN then y else if y.isNaN then x else if x < y then y else x

/-- The lesser of two numbers. -/
def min : List Value → Except Failure Value :=
  onNumbers "min" fun x y => .ok (numberValue (lesser x y))

/-- The greater of two numbers. -/
def max : List Value → Except Failure Value :=
  onNumbers "max" fun x y => .ok (numberValue (greater x y))

theorem abs_integer (n : Int64) (rest : List Value) :
    abs (.integer n :: rest) = .ok (.integer (magnitude n)) := rfl

end Recordwise.Functions
