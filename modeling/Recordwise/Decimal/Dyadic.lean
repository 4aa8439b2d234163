/-
  Recordwise.Decimal.Dyadic
  ─────────────────────────
  **Binary64 numbers as exact dyadic rationals.**

  A finite `Float` is `± m · 2^e` with natural `m` and integer `e`.  The
  operations here decode that form from the bits and compute on it exactly,
  so that the result of an operation is decided by integer arithmetic alone:

      ofFloat?      — the exact value of a finite float
      truncate      — the integer part, toward zero
      floor, ceiling, nearest
                    — the three integer roundings (`nearest` takes halves
                      away from zero)
      remainder     — the remainder of truncated division

  Main statements:

      isIntegral_iff — integral means: equal to its truncation
      nearest_ofInt  — an integer rounds to itself
-/

namespace Recordwise.Decimal

/-! ## §1. Signed dyadic rationals. -/

/-- The number `mantissa · 2^exponent`, negated when `negative` holds.  Zero
has both signs. -/
structure Dyadic where
  /-- The sign; a negative zero is possible. -/
  negative : Bool
  /-- The magnitude, in units of `2^exponent`. -/
  mantissa : Nat
  /-- The exponent of the unit. -/
  exponent : Int
  deriving Repr, DecidableEq

namespace Dyadic

/-- The exact value of a finite float; `none` for NaN and the infinities. -/
def ofFloat? (x : Float) : Option Dyadic :=
  let b := x.toBits.toNat
  let field : Nat := b / Nat.pow 2 52 % Nat.pow 2 11
  let fraction : Nat := b % Nat.pow 2 52
  let negative := b / Nat.pow 2 63 == 1
  if field == 2047 then none
  -- zero and the numbers below the least normal one have no leading bit
  else if field == 0 then some ⟨negative, fraction, -1074⟩
  else some ⟨negative, Nat.pow 2 52 + fraction, (field : Int) - 1075⟩

/-- The numerator of the magnitude over the denominator `2^(-exponent)`. -/
def numerator (d : Dyadic) : Nat := d.mantissa * Nat.pow 2 d.exponent.toNat

/-- The denominator of the magnitude. -/
def denominator (d : Dyadic) : Nat := Nat.pow 2 (-d.exponent).toNat

theorem denominator_pos (d : Dyadic) : 0 < d.denominator :=
  Nat.pow_pos (by decide)

/-- A natural number with the sign of `d`. -/
def signed (d : Dyadic) (n : Nat) : Int := if d.negative then -(n : Int) else n

/-- The exact dyadic of an integer. -/
def ofInt (i : Int) : Dyadic := ⟨i < 0, i.natAbs, 0⟩

/-! ## §2. Integer parts. -/

/-- Whether the value is an integer. -/
def isIntegral (d : Dyadic) : Bool := d.numerator % d.denominator == 0

/-- The integer part, toward zero. -/
def truncate (d : Dyadic) : Int := d.signed (d.numerator / d.denominator)

/-- The magnitude of the integer part. -/
def wholeBelow (d : Dyadic) : Nat := d.numerator / d.denominator

/-- The least natural number that is not below the magnitude. -/
def wholeAbove (d : Dyadic) : Nat := (d.numerator + d.denominator - 1) / d.denominator

/-- The magnitude of the greatest integer not above the value. -/
def floorMagnitude (d : Dyadic) : Nat := if d.negative then d.wholeAbove else d.wholeBelow

/-- The magnitude of the least integer not below the value. -/
def ceilingMagnitude (d : Dyadic) : Nat := if d.negative then d.wholeBelow else d.wholeAbove

/-- The magnitude of the nearest integer, a half going away from zero. -/
def nearestMagnitude (d : Dyadic) : Nat :=
  (2 * d.numerator + d.denominator) / (2 * d.denominator)

/-- A dyadic is integral exactly when its denominator divides its
numerator. -/
theorem isIntegral_iff (d : Dyadic) :
    d.isIntegral = true ↔ d.wholeBelow * d.denominator = d.numerator := by
  rw [isIntegral, wholeBelow, beq_iff_eq]
  constructor
  · intro h; exact Nat.div_mul_cancel (Nat.dvd_of_mod_eq_zero h)
  · intro h; rw [← h]; exact Nat.mul_mod_left _ _

/-- An integer is its own nearest integer. -/
theorem nearest_ofInt (i : Int) : (ofInt i).nearestMagnitude = i.natAbs := by
  have hn : (ofInt i).numerator = i.natAbs := by simp [numerator, ofInt]
  have hd : (ofInt i).denominator = 1 := by simp [denominator, ofInt]
  rw [nearestMagnitude, hn, hd]; omega

/-! ## §3. Back to floats. -/

/-- The float of a magnitude `n · 2^e` that binary64 can represent. -/
def magnitude (n : Nat) (e : Int) : Float :=
  if e < 0 then Float.ofScientific (n * Nat.pow 5 (-e).toNat) true (-e).toNat
  else Float.ofNat (n * Nat.pow 2 e.toNat)

/-- The float of a representable magnitude with the sign of `d`, the sign of
zero included. -/
def withSign (d : Dyadic) (x : Float) : Float := if d.negative then -x else x

/-- The remainder of `d` by `divisor`, with the sign of `d`: what truncated
division leaves over.  The divisor is not zero. -/
def remainder (d divisor : Dyadic) : Float :=
  let e := min d.exponent divisor.exponent
  let a := d.mantissa * Nat.pow 2 (d.exponent - e).toNat
  let b := divisor.mantissa * Nat.pow 2 (divisor.exponent - e).toNat
  d.withSign (magnitude (a % b) e)

end Dyadic

/-! ## §4. Roundings of floats. -/

/-- Replace a finite float by an integer of the magnitude that `f` chooses,
keeping the sign; NaN and the infinities stay. -/
def roundBy (f : Dyadic → Nat) (x : Float) : Float :=
  match Dyadic.ofFloat? x with
  | some d => if d.isIntegral then x else d.withSign (Float.ofNat (f d))
  | none => x

/-- The greatest integer not above `x`. -/
def floor (x : Float) : Float := roundBy Dyadic.floorMagnitude x

/-- The least integer not below `x`. -/
def ceiling (x : Float) : Float := roundBy Dyadic.ceilingMagnitude x

/-- The nearest integer, a half going away from zero. -/
def nearest (x : Float) : Float := roundBy Dyadic.nearestMagnitude x

/-- Whether `x` is finite and an integer. -/
def isIntegral (x : Float) : Bool :=
  match Dyadic.ofFloat? x with
  | some d => d.isIntegral
  | none => false

/-- The remainder of truncated division.  NaN when the dividend is infinite or
the divisor zero or either is NaN; the dividend when the divisor is
infinite. -/
def remainder (x y : Float) : Float :=
  match Dyadic.ofFloat? x, Dyadic.ofFloat? y with
  | some a, some b => if b.mantissa = 0 then 0.0 / 0.0 else a.remainder b
  | some _, none => if y.isNaN then y else x
  | none, _ => 0.0 / 0.0

/-! ## §5. 64-bit integers. -/

/-- The integer nearest to `i` that 64 bits hold. -/
def clampInt64 (i : Int) : Int64 :=
  if i < Int64.minValue.toInt then Int64.minValue
  else if i > Int64.maxValue.toInt then Int64.maxValue
  else Int64.ofInt i

/-- The integer part of a float, clamped to 64 bits; NaN gives zero. -/
def toInt64 (x : Float) : Int64 :=
  match Dyadic.ofFloat? x with
  | some d => clampInt64 d.truncate
  | none => if x.isNaN then 0 else if x < 0 then Int64.minValue else Int64.maxValue

/-- The float nearest to a 64-bit integer. -/
def ofInt64 (n : Int64) : Float := Float.ofInt n.toInt

end Recordwise.Decimal
