/-
  Recordwise.Proofs.Functions.IntegerArithmetic
  ─────────────────────────────────────────────
  **What the numeric functions return for integers.**

  The functions compute in binary64, so an integer takes part as the binary64
  number nearest to it.  That number is returned as an integer while it is
  below `2^63` in size, and as a float at the ends of the 64-bit range.  Main
  statements:

      numberValue_of_nearest — what a number nearest to an integer is returned
                               as
      rounded_eq_integer_iff — when that is the integer
      call_integers          — min, max, mod, ceil, floor, round and to_number
                               of integers
-/
import Recordwise.Builtin
import Recordwise.Proofs.Decimal.Integral
import Recordwise.Proofs.Evaluation.Running
import Recordwise.Proofs.Value.Numbers

namespace Recordwise.Functions

open Binary64 (toRat? nearestInt)

/-! ## §1. The value of a number. -/

/-- The value that an integer becomes on the way through binary64. -/
def rounded (n : Int64) : Value :=
  if |nearestInt n.toInt| < 2 ^ 63 then .integer (Int64.ofInt (nearestInt n.toInt))
  else .float (Decimal.ofInt64 n)

theorem toRat?_bound : toRat? 9223372036854775808.0 = some ((2 ^ 63 : ℤ) : ℚ) := by
  have decimal : ((92233720368547758080 : ℕ) : ℚ) * 10 ^ (-((1 : ℕ) : ℤ)) = ((2 ^ 63 : ℤ) : ℚ) := by
    norm_num
  have binary : Binary64.IsBinary ((2 ^ 63 : ℤ) : ℚ) :=
    ⟨1, 63, by norm_num, by norm_num, by norm_num⟩
  have range : |((2 ^ 63 : ℤ) : ℚ)| < 2 ^ 1024 := by
    rw [abs_of_nonneg (by norm_num), Int.cast_pow]
    exact pow_lt_pow_right₀ (by norm_num) (by norm_num)
  refine (Binary64.toRat?_ofScientific 92233720368547758080 true 1).trans ?_
  rw [if_pos rfl, decimal, Binary64.round?_of_isBinary binary range]

/-- An integral number is returned as an integer of 64 bits if it is below
`2^63` in size. -/
theorem numberValue_of_integer {x : Float} {k : ℤ} (h : toRat? x = some (k : ℚ)) :
    numberValue x = if |k| < 2 ^ 63 then .integer (Int64.ofInt k) else .float x := by
  have integral : Decimal.isIntegral x = true := (Binary64.isIntegral_iff_value h).2 ⟨k, rfl⟩
  have size : toRat? x.abs = some ((|k| : ℤ) : ℚ) := by
    rw [Binary64.toRat?_abs, h, Option.map_some, Int.cast_abs]
  have small : x.abs < 9223372036854775808.0 ↔ |k| < 2 ^ 63 := by
    rw [Binary64.lt_iff size toRat?_bound, Int.cast_lt]
  unfold numberValue
  rw [integral, Bool.true_and, decide_eq_decide.2 small]
  by_cases fits : |k| < 2 ^ 63
  · have low : Int64.minValue.toInt = -2 ^ 63 := by decide
    have high : Int64.maxValue.toInt = 2 ^ 63 - 1 := by decide
    have bounds := abs_lt.1 fits
    have kept : Decimal.clampInt64 k = Int64.ofInt k := by
      unfold Decimal.clampInt64
      rw [if_neg (by omega), if_neg (by omega)]
    rw [decide_eq_true fits, if_pos rfl, if_pos fits, Binary64.toInt64_eq h, kept]
  · rw [decide_eq_false fits, if_neg Bool.false_ne_true, if_neg fits]

/-- **What a number nearest to an integer is returned as.** -/
theorem numberValue_of_nearest {x : Float} {n : Int64}
    (h : toRat? x = some (nearestInt n.toInt : ℚ)) : numberValue x = rounded n := by
  rw [numberValue_of_integer h]
  unfold rounded
  split
  · rfl
  · rename_i large
    -- no zero is so large, and so the float is the one of the integer
    have nonzero : (nearestInt n.toInt : ℚ) ≠ 0 := by
      intro zero
      have zero : nearestInt n.toInt = 0 := by exact_mod_cast zero
      rw [zero] at large
      exact large (by norm_num)
    rw [Binary64.eq_of_toRat? nonzero h (Binary64.toRat?_ofInt64 n)]

/-- **An integer is returned as itself when it is its own nearest, and not the
least of all.** -/
theorem rounded_eq_integer_iff (n : Int64) :
    rounded n = .integer n ↔ nearestInt n.toInt = n.toInt ∧ n ≠ Int64.minValue := by
  have least : Int64.minValue.toInt = -2 ^ 63 := by decide
  have low := n.le_toInt
  have high := n.toInt_lt
  unfold rounded
  constructor
  · intro same
    split at same
    · rename_i fits
      have bounds := abs_lt.1 fits
      have kept : nearestInt n.toInt = n.toInt := by
        have same := congrArg Int64.toInt (Value.integer.inj same)
        rwa [Int64.toInt_ofInt_of_le bounds.1.le bounds.2] at same
      refine ⟨kept, ?_⟩
      rintro rfl
      omega
    · cases same
  · -- the least integer alone has the size `2^63`
    rintro ⟨kept, other⟩
    have above : n.toInt ≠ -2 ^ 63 := fun h => other (Int64.toInt_inj.1 (h.trans least.symm))
    have fits : |n.toInt| < 2 ^ 63 := abs_lt.2 ⟨by omega, by omega⟩
    rw [kept, if_pos fits, Int64.ofInt_toInt]

/-- Integers of 53 bits are returned as themselves. -/
theorem rounded_of_bits {n : Int64} (h : |n.toInt| ≤ 2 ^ 53) : rounded n = .integer n := by
  refine (rounded_eq_integer_iff n).2 ⟨Binary64.nearestInt_of_bits h, ?_⟩
  rintro rfl
  exact absurd h (by decide)

/-! ## §2. Arguments that are integers. -/

variable {v w : Value} {a b n : Int64}

theorem numberArg_of_writes {args : List Value} {i : ℕ} (function : String)
    (h : args[i]? = some v) (hv : v.Writes n) :
    ∃ x, numberArg function args i = .ok (some x)
      ∧ toRat? x = some (nearestInt n.toInt : ℚ) := by
  obtain ⟨x, read, value⟩ := hv.asFloat?
  refine ⟨x, ?_, value⟩
  unfold numberArg argument
  rw [h]
  rcases hv with rfl | rfl
  · dsimp only
    rw [read]
  · dsimp only
    rw [read]

/-- A function of one number, of a value that writes an integer. -/
theorem onNumber_of_writes (function : String) {f : Float → Value} {r : Value} (hv : v.Writes n)
    (h : ∀ x, toRat? x = some (nearestInt n.toInt : ℚ) → f x = r) :
    onNumber function f [v] = .ok r := by
  obtain ⟨x, read, value⟩ := numberArg_of_writes function (show [v][0]? = some v from rfl) hv
  unfold onNumber
  rw [read, ← h x value]
  rfl

/-- A function of two numbers, of values that write integers. -/
theorem onNumbers_of_writes (function : String) {f : Float → Float → Except Failure Value}
    {r : Except Failure Value} (hv : v.Writes a) (hw : w.Writes b)
    (h : ∀ x y, toRat? x = some (nearestInt a.toInt : ℚ) →
      toRat? y = some (nearestInt b.toInt : ℚ) → f x y = r) :
    onNumbers function f [v, w] = r := by
  obtain ⟨x, readx, valuex⟩ :=
    numberArg_of_writes function (show [v, w][0]? = some v from rfl) hv
  obtain ⟨y, ready, valuey⟩ :=
    numberArg_of_writes function (show [v, w][1]? = some w from rfl) hw
  unfold onNumbers
  rw [readx, ready, ← h x y valuex valuey]
  rfl

/-! ## §3. The functions. -/

theorem floor_of_writes (hv : v.Writes n) : floor [v] = .ok (rounded n) := by
  refine onNumber_of_writes "floor" hv fun x value => ?_
  show numberValue (Decimal.roundBy _ x) = _
  rw [Binary64.roundBy_eq_self _ value, numberValue_of_nearest value]

theorem ceil_of_writes (hv : v.Writes n) : ceil [v] = .ok (rounded n) := by
  refine onNumber_of_writes "ceil" hv fun x value => ?_
  show numberValue (Decimal.roundBy _ x) = _
  rw [Binary64.roundBy_eq_self _ value, numberValue_of_nearest value]

/-- Rounding to no places divides by one and multiplies by it. -/
theorem roundTo_zero {x : Float} (value : toRat? x = some (nearestInt n.toInt : ℚ)) :
    roundTo x 0 = rounded n := by
  have one : toRat? (powerOfTen 0) = some ((1 : ℤ) : ℚ) := by
    have exact := Binary64.round?_of_bits (n := 1) (by norm_num)
    exact (Binary64.toRat?_ofNat 1).trans (by exact_mod_cast exact)
  -- either result is a float already, and rounding leaves it alone
  have kept := Binary64.round?_of_toRat? value
  have divided : toRat? (x / powerOfTen 0) = some (nearestInt n.toInt : ℚ) := by
    rw [Binary64.toRat?_div value one (by norm_num), Int.cast_one, div_one, kept]
  have multiplied : toRat? (x / powerOfTen 0 * powerOfTen 0) = some (nearestInt n.toInt : ℚ) := by
    rw [Binary64.toRat?_mul divided one, Int.cast_one, mul_one, kept]
  show numberValue (Decimal.roundBy _ (x / powerOfTen 0) * powerOfTen 0) = _
  rw [Binary64.roundBy_eq_self _ divided, numberValue_of_nearest multiplied]

theorem round_of_writes (hv : v.Writes n) : round [v] = .ok (rounded n) := by
  obtain ⟨x, read, value⟩ := numberArg_of_writes "round" (show [v][0]? = some v from rfl) hv
  unfold round
  rw [read, ← roundTo_zero value]
  rfl

theorem toNumber_of_text (n : Int64) :
    toNumber [.text (String.ofList (Decimal.intText n.toInt))] = .ok (rounded n) :=
  onNumber_of_writes "to_number" (Or.inr rfl) fun _ value => numberValue_of_nearest value

/-- The lesser of two finite floats is the one of the lesser number. -/
theorem toRat?_lesser {x y : Float} {p q : ℚ} (hx : toRat? x = some p) (hy : toRat? y = some q) :
    toRat? (lesser x y) = some (Min.min p q) := by
  unfold lesser
  rw [Binary64.isNaN_of_toRat? hx, Binary64.isNaN_of_toRat? hy, if_neg Bool.false_ne_true,
    if_neg Bool.false_ne_true, if_congr (Binary64.lt_iff hy hx) rfl rfl]
  split
  · rename_i less
    rw [hy, min_eq_right less.le]
  · rename_i most
    rw [hx, min_eq_left (not_lt.1 most)]

/-- The greater of two finite floats is the one of the greater number. -/
theorem toRat?_greater {x y : Float} {p q : ℚ} (hx : toRat? x = some p) (hy : toRat? y = some q) :
    toRat? (greater x y) = some (Max.max p q) := by
  unfold greater
  rw [Binary64.isNaN_of_toRat? hx, Binary64.isNaN_of_toRat? hy, if_neg Bool.false_ne_true,
    if_neg Bool.false_ne_true, if_congr (Binary64.lt_iff hx hy) rfl rfl]
  split
  · rename_i less
    rw [hy, max_eq_right less.le]
  · rename_i least
    rw [hx, max_eq_left (not_lt.1 least)]

/-- Rounding keeps the order, and so the lesser of two integers. -/
theorem nearestInt_min (a b : Int64) :
    nearestInt (Min.min a b).toInt = Min.min (nearestInt a.toInt) (nearestInt b.toInt) := by
  have mono : Monotone nearestInt := fun _ _ => Binary64.nearestInt_mono
  rw [← mono.map_min, min_def, ← if_congr Int64.le_iff_toInt_le rfl rfl, ← apply_ite Int64.toInt]
  rfl

theorem nearestInt_max (a b : Int64) :
    nearestInt (Max.max a b).toInt = Max.max (nearestInt a.toInt) (nearestInt b.toInt) := by
  have mono : Monotone nearestInt := fun _ _ => Binary64.nearestInt_mono
  rw [← mono.map_max, max_def, ← if_congr Int64.le_iff_toInt_le rfl rfl, ← apply_ite Int64.toInt]
  rfl

/-- A remainder is smaller than its divisor. -/
theorem abs_tmod_lt (a : ℤ) {b : ℤ} (nonzero : b ≠ 0) : |a.tmod b| < |b| := by
  have less : a.natAbs % b.natAbs < b.natAbs := Nat.mod_lt _ (Int.natAbs_pos.2 nonzero)
  rw [← Int.natAbs_tmod] at less
  rw [Int.abs_eq_natAbs, Int.abs_eq_natAbs]
  exact_mod_cast less

section Two

variable {x y : Float} (hx : toRat? x = some (nearestInt a.toInt : ℚ))
  (hy : toRat? y = some (nearestInt b.toInt : ℚ))

include hx hy

/-- The lesser number is the one nearest to the lesser integer. -/
theorem numberValue_lesser : numberValue (lesser x y) = rounded (Min.min a b) := by
  apply numberValue_of_nearest
  rw [toRat?_lesser hx hy, nearestInt_min, Int.cast_min]

/-- The greater number is the one nearest to the greater integer. -/
theorem numberValue_greater : numberValue (greater x y) = rounded (Max.max a b) := by
  apply numberValue_of_nearest
  rw [toRat?_greater hx hy, nearestInt_max, Int.cast_max]

/-- The remainder of integers is an integer of 64 bits. -/
theorem numberValue_remainder (nonzero : nearestInt b.toInt ≠ 0) :
    numberValue (Decimal.remainder x y)
      = .integer (Int64.ofInt ((nearestInt a.toInt).tmod (nearestInt b.toInt))) := by
  -- it is smaller than the divisor, and so fits even when the divisor does not
  have fits : |(nearestInt a.toInt).tmod (nearestInt b.toInt)| < 2 ^ 63 :=
    (abs_tmod_lt _ nonzero).trans_le (Binary64.abs_nearestInt_le b)
  rw [numberValue_of_integer (Binary64.toRat?_remainder hx hy nonzero), if_pos fits]

end Two

theorem min_of_writes (hv : v.Writes a) (hw : w.Writes b) :
    min [v, w] = .ok (rounded (Min.min a b)) :=
  onNumbers_of_writes "min" hv hw fun _ _ hx hy => congrArg Except.ok (numberValue_lesser hx hy)

theorem max_of_writes (hv : v.Writes a) (hw : w.Writes b) :
    max [v, w] = .ok (rounded (Max.max a b)) :=
  onNumbers_of_writes "max" hv hw fun _ _ hx hy => congrArg Except.ok (numberValue_greater hx hy)

theorem modulo_of_writes (hv : v.Writes a) (hw : w.Writes b) (nonzero : b ≠ 0) :
    modulo [v, w]
      = .ok (.integer (Int64.ofInt ((nearestInt a.toInt).tmod (nearestInt b.toInt)))) := by
  refine onNumbers_of_writes "mod" hv hw fun x y hx hy => ?_
  have zero : toRat? 0.0 = some ((0 : ℤ) : ℚ) := by
    rw [Binary64.toRat?_zero, Int.cast_zero]
  have apart : nearestInt b.toInt ≠ 0 :=
    Binary64.nearestInt_ne_zero fun h => nonzero (Int64.toInt_inj.1 h)
  have divisor : ¬ (y == 0.0) = true := by
    rw [Binary64.beq_iff hy zero]
    exact_mod_cast apart
  rw [if_neg divisor, numberValue_remainder hx hy apart]

end Recordwise.Functions

namespace Recordwise.Builtin

open Binary64 (nearestInt)
open Functions (rounded)

/-! ## §4. Calls. -/

/-- **The numeric functions of integers.** -/
theorem call_integers (ctx : Context) (a b : Int64) :
    call ctx "min" [.integer a, .integer b] = pure (rounded (Min.min a b))
      ∧ call ctx "max" [.integer a, .integer b] = pure (rounded (Max.max a b))
      ∧ (b ≠ 0 → call ctx "mod" [.integer a, .integer b]
          = pure (.integer (Int64.ofInt ((nearestInt a.toInt).tmod (nearestInt b.toInt)))))
      ∧ (∀ name ∈ ["ceil", "floor", "round"], call ctx name [.integer a] = pure (rounded a))
      ∧ call ctx "to_number" [.text (String.ofList (Decimal.intText a.toInt))] = pure (rounded a)
      ∧ (rounded a = .integer a ↔ nearestInt a.toInt = a.toInt ∧ a ≠ Int64.minValue) := by
  have va : Value.Writes (.integer a) a := Or.inl rfl
  have vb : Value.Writes (.integer b) b := Or.inl rfl
  refine ⟨?_, ?_, fun nonzero => ?_, ?_, ?_, Functions.rounded_eq_integer_iff a⟩
  · rw [call_of_check (b := .min) (by show check "min" 2 = _; decide)]
    exact congrArg Eval.ofExcept (Functions.min_of_writes va vb)
  · rw [call_of_check (b := .max) (by show check "max" 2 = _; decide)]
    exact congrArg Eval.ofExcept (Functions.max_of_writes va vb)
  · rw [call_of_check (b := .modulo) (by show check "mod" 2 = _; decide)]
    exact congrArg Eval.ofExcept (Functions.modulo_of_writes va vb nonzero)
  · intro name listed
    simp only [List.mem_cons, List.not_mem_nil, or_false] at listed
    rcases listed with rfl | rfl | rfl
    · rw [call_of_check (b := .ceil) (by show check "ceil" 1 = _; decide)]
      exact congrArg Eval.ofExcept (Functions.ceil_of_writes va)
    · rw [call_of_check (b := .floor) (by show check "floor" 1 = _; decide)]
      exact congrArg Eval.ofExcept (Functions.floor_of_writes va)
    · rw [call_of_check (b := .round) (by show check "round" 1 = _; decide)]
      exact congrArg Eval.ofExcept (Functions.round_of_writes va)
  · -- for any arguments, so that the text is not run
    have applied (args : List Value) :
        Builtin.toNumber.apply ctx args = Eval.ofExcept (Functions.toNumber args) := rfl
    rw [call_of_check (b := .toNumber) (by show check "to_number" 1 = _; decide), applied,
      Functions.toNumber_of_text]
    rfl

theorem call_integers_seven :
    (3 : Int64) ≠ 0 ∧ "floor" ∈ ["ceil", "floor", "round"]
      ∧ call ⟨Zone.utc, []⟩ "mod" [.integer 7, .integer 3] = pure (.integer 1)
      ∧ call ⟨Zone.utc, []⟩ "floor" [.integer 7] = pure (.integer 7) := by
  obtain ⟨-, -, mod, single, -⟩ := call_integers ⟨Zone.utc, []⟩ 7 3
  have seven : nearestInt (7 : Int64).toInt = 7 := Binary64.nearestInt_of_bits (by decide)
  have three : nearestInt (3 : Int64).toInt = 3 := Binary64.nearestInt_of_bits (by decide)
  refine ⟨by decide, by decide, ?_, ?_⟩
  · rw [mod (by decide), seven, three]
    rfl
  · rw [single "floor" (by decide), Functions.rounded_of_bits (by decide)]

/-- An odd integer beyond 53 bits is not returned. -/
theorem not_call_integers_exact :
    ¬ ∀ (ctx : Context) (a b : Int64),
        call ctx "min" [.integer a, .integer b] = pure (.integer (Min.min a b))
          ∧ call ctx "max" [.integer a, .integer b] = pure (.integer (Max.max a b))
          ∧ (b ≠ 0 → call ctx "mod" [.integer a, .integer b]
              = pure (.integer (Int64.ofInt (a.toInt.tmod b.toInt))))
          ∧ (∀ name ∈ ["ceil", "floor", "round"], call ctx name [.integer a] = pure (.integer a))
          ∧ call ctx "to_number" [.text (String.ofList (Decimal.intText a.toInt))]
              = pure (.integer a) := by
  intro exact
  have claimed := (exact ⟨Zone.utc, []⟩ 9007199254740993 0).2.2.2.1 "floor" (by simp)
  have lost : Functions.floor [.integer 9007199254740993] = .ok (.integer 9007199254740992) := by
    decide +kernel
  have given : call ⟨Zone.utc, []⟩ "floor" [.integer 9007199254740993]
      = pure (.integer 9007199254740992) := by
    rw [call_of_check (b := .floor) (by show check "floor" 1 = _; decide)]
    exact congrArg Eval.ofExcept lost
  rw [given, Eval.pure_inj] at claimed
  exact absurd claimed (by decide)

end Recordwise.Builtin
