/-
  Recordwise.Proofs.Decimal.Conversion
  ────────────────────────────────────
  **The float of a decimal is the one nearest to it.**

  Short decimals are computed from two floats that are exact, long ones from
  integers of any size; either way there is one rounding.  A decimal that is
  far out of the range of floats is not computed at all.  Main statements:

      toRat?_ofScientific       — one rounding of the decimal
      toRat?_floatOfScientific  — for any size of its exponent
      toRat?_ofInt64            — one rounding of the integer
-/
import Recordwise.Decimal.Reading
import Recordwise.Proofs.Decimal.Arithmetic

namespace Recordwise.Binary64

open Float (Model)
open Float.Model (UnpackedFloat)
open Float.Model.Format (binary64)

/-! ## §1. Decimals out of the range. -/

/-- Powers of two bases compare as two of their powers do. -/
theorem pow_le_pow_of_base {a b c d k n : ℕ} (pos : 0 < a) (nonzero : d ≠ 0)
    (base : a ^ c ≤ b ^ d) (whole : k * d ≤ c * n) : a ^ k ≤ b ^ n := by
  -- a power of both sides brings the compared ones in
  have powers : (a ^ k) ^ d ≤ (b ^ n) ^ d :=
    calc (a ^ k) ^ d = a ^ (k * d) := (pow_mul ..).symm
      _ ≤ a ^ (c * n) := Nat.pow_le_pow_right pos whole
      _ = (a ^ c) ^ n := pow_mul ..
      _ ≤ (b ^ d) ^ n := Nat.pow_le_pow_left base n
      _ = (b ^ n) ^ d := by rw [← pow_mul, ← pow_mul, Nat.mul_comm]
  exact (Nat.pow_le_pow_iff_left nonzero).1 powers

/-- The fraction `30102 / 100000` is below the decimal logarithm of two. -/
theorem ten_pow_le_two_pow (n : ℕ) : 10 ^ (n * 30102 / 100000) ≤ 2 ^ n := by
  have base : 10 ^ 30102 ≤ 2 ^ 100000 := by decide +kernel
  exact pow_le_pow_of_base (by omega) (by omega) base (by omega)

/-- The fraction `30103 / 100000` is above it. -/
theorem two_pow_le_ten_pow (n : ℕ) : 2 ^ n ≤ 10 ^ (n * 30103 / 100000 + 1) := by
  have base : 2 ^ 100000 ≤ 10 ^ 30103 := by decide +kernel
  exact pow_le_pow_of_base (by omega) (by omega) base (by omega)

/-- A decimal with an exponent that is too large is out of the range. -/
theorem two_pow_le_decimal {m : ℕ} (pos : 0 < m) {e : ℤ}
    (h : 310 < ((m.log2 : ℕ) : ℤ) * 30102 / 100000 + e) : (2 : ℚ) ^ 1024 ≤ |(m : ℚ) * 10 ^ e| := by
  have ten : (0 : ℚ) < 10 ^ e := zpow_pos (by norm_num) e
  have size : |(m : ℚ) * 10 ^ e| = m * 10 ^ e := abs_of_nonneg (by positivity)
  have leading : (10 : ℚ) ^ (m.log2 * 30102 / 100000) ≤ m := by
    have power : 10 ^ (m.log2 * 30102 / 100000) ≤ m :=
      (ten_pow_le_two_pow _).trans ((Nat.le_log2 pos.ne').1 le_rfl)
    exact_mod_cast power
  have base : 2 ^ 1024 ≤ 10 ^ 310 := by decide +kernel
  calc (2 : ℚ) ^ 1024 ≤ 10 ^ 310 := by exact_mod_cast base
    _ = 10 ^ (310 : ℤ) := (zpow_natCast 10 310).symm
    _ ≤ 10 ^ (((m.log2 * 30102 / 100000 : ℕ) : ℤ) + e) :=
      zpow_le_zpow_right₀ (by norm_num) (by omega)
    _ = 10 ^ (m.log2 * 30102 / 100000) * 10 ^ e := by rw [zpow_add₀ (by norm_num), zpow_natCast]
    _ ≤ m * 10 ^ e := mul_le_mul_of_nonneg_right leading ten.le
    _ = |(m : ℚ) * 10 ^ e| := size.symm

/-- One with an exponent that is too small is nearest to zero. -/
theorem decimal_lt_two_zpow {m : ℕ} (pos : 0 < m) {e : ℤ}
    (h : ((m.log2 : ℕ) : ℤ) * 30103 / 100000 + e < -330) :
    |(m : ℚ) * 10 ^ e| < 2 ^ (-1075 : ℤ) := by
  have ten : (0 : ℚ) < 10 ^ e := zpow_pos (by norm_num) e
  have size : |(m : ℚ) * 10 ^ e| = m * 10 ^ e := abs_of_nonneg (by positivity)
  have leading : (m : ℚ) < 2 * 10 ^ (m.log2 * 30103 / 100000 + 1) := by
    have power : m < 2 * 10 ^ (m.log2 * 30103 / 100000 + 1) :=
      calc m < 2 ^ (m.log2 + 1) := (Nat.log2_lt pos.ne').1 (Nat.lt_succ_self _)
        _ = 2 * 2 ^ m.log2 := Nat.pow_succ'
        _ ≤ 2 * 10 ^ (m.log2 * 30103 / 100000 + 1) :=
          Nat.mul_le_mul_left 2 (two_pow_le_ten_pow _)
    exact_mod_cast power
  have base : 2 * 2 ^ 1075 ≤ 10 ^ 330 := by decide +kernel
  have half : 2 * (10 : ℚ) ^ (-330 : ℤ) ≤ 2 ^ (-1075 : ℤ) := by
    have base : (2 : ℚ) * 2 ^ 1075 ≤ 10 ^ 330 := by exact_mod_cast base
    have two : (0 : ℚ) < 2 ^ 1075 := pow_pos (by norm_num) _
    have ten : (0 : ℚ) < 10 ^ 330 := pow_pos (by norm_num) _
    rw [zpow_neg, zpow_neg, zpow_ofNat, zpow_ofNat, ← div_eq_mul_inv, ← one_div,
      div_le_div_iff₀ ten two, one_mul]
    exact base
  calc |(m : ℚ) * 10 ^ e| = m * 10 ^ e := size
    _ < 2 * 10 ^ (m.log2 * 30103 / 100000 + 1) * 10 ^ e := mul_lt_mul_of_pos_right leading ten
    _ = 2 * 10 ^ (((m.log2 * 30103 / 100000 + 1 : ℕ) : ℤ) + e) := by
      rw [zpow_add₀ (by norm_num), zpow_natCast, mul_assoc]
    _ ≤ 2 * 10 ^ (-330 : ℤ) := by
      refine mul_le_mul_of_nonneg_left (zpow_le_zpow_right₀ (by norm_num) ?_) (by norm_num)
      omega
    _ ≤ 2 ^ (-1075 : ℤ) := half

/-! ## §2. Decimals by integers. -/

theorem valueOf?_ofScientific (m : ℕ) (e : ℤ) :
    valueOf? (Model.pack (UnpackedFloat.ofScientific binary64 m e)).unpack
      = round? (m * 10 ^ e) := by
  unfold UnpackedFloat.ofScientific
  by_cases zero : m = 0
  · rw [dif_pos zero, valueOf?_pack_zero, zero, Nat.cast_zero, zero_mul]
  have pos : 0 < m := Nat.pos_of_ne_zero zero
  rw [dif_neg zero]
  by_cases huge : e > 2 ^ 11
  · rw [if_pos huge, round?_of_large (two_pow_le_decimal pos (by omega))]
    rfl
  rw [if_neg huge]
  by_cases tiny : e < -(2 ^ 11 + (m.log2 : ℤ))
  · rw [if_pos tiny, round?_of_small (decimal_lt_two_zpow pos (by omega)), valueOf?_pack_zero,
      round?_zero]
  rw [if_neg tiny]
  by_cases whole : 0 ≤ e
  · -- the mantissa is shifted so that the product has bits enough to round
    obtain ⟨k, rfl⟩ := Int.eq_ofNat_of_zero_le whole
    have units : ((m <<< 53 : ℕ) : ℚ) * 2 ^ (-53 : ℤ) * (((10 ^ k : ℕ) : ℚ) * 2 ^ (0 : ℤ))
        = m * 10 ^ (k : ℤ) := by
      have cancel : (9007199254740992 : ℚ) * 2 ^ (-53 : ℤ) = 1 := by norm_num
      rw [Nat.shiftLeft_eq, zpow_natCast, zpow_zero, mul_one]
      push_cast
      rw [mul_assoc (m : ℚ), cancel, mul_one]
    have bits : 2 ^ 52 ≤ m <<< 53 * 10 ^ k := by
      have power : 0 < 10 ^ k := by positivity
      rw [Nat.shiftLeft_eq]
      calc 2 ^ 52 ≤ m * 2 ^ 53 := by omega
        _ ≤ m * 2 ^ 53 * 10 ^ k := Nat.le_mul_of_pos_right _ power
    rw [if_pos whole, ← units]
    exact valueOf?_mul .positive .positive _ _ (Or.inl bits)
  · obtain ⟨k, rfl⟩ := Int.exists_eq_neg_ofNat (not_le.1 whole).le
    have units : (m : ℚ) * 2 ^ (0 : ℤ) / (((10 ^ k : ℕ) : ℚ) * 2 ^ (0 : ℤ))
        = m * 10 ^ (-(k : ℤ)) := by
      rw [zpow_zero, mul_one, mul_one, zpow_neg, zpow_natCast, ← div_eq_mul_inv]
      push_cast
      rfl
    rw [if_neg whole, ← units]
    simp only [neg_neg, Int.toNat_natCast]
    exact valueOf?_div .positive .positive _ _

/-! ## §3. Decimals by floats. -/

/-- The size of a dyadic as a fraction. -/
theorem size_eq_div (d : Decimal.Dyadic) :
    (d.mantissa : ℚ) * 2 ^ d.exponent = d.numerator / d.denominator := by
  unfold Decimal.Dyadic.numerator Decimal.Dyadic.denominator
  rw [Nat.pow_eq, Nat.pow_eq]
  rcases le_total 0 d.exponent with whole | part
  · obtain ⟨k, hk⟩ := Int.eq_ofNat_of_zero_le whole
    have none : (-(k : ℤ)).toNat = 0 := by omega
    rw [hk, none, Int.toNat_natCast, zpow_natCast]
    push_cast
    rw [div_one]
  · obtain ⟨k, hk⟩ := Int.exists_eq_neg_ofNat part
    have none : (-(k : ℤ)).toNat = 0 := by omega
    rw [hk, none, neg_neg, Int.toNat_natCast, zpow_neg, zpow_natCast, ← div_eq_mul_inv]
    push_cast
    rw [mul_one]

theorem numerator_powerOfTen : ∀ k : Fin Float.exactlyRepresentablePowersOfTen.size,
    (Decimal.Dyadic.ofFloat? Float.exactlyRepresentablePowersOfTen[k]).any
      (fun d => !d.negative && d.numerator == 10 ^ k.val * d.denominator) = true := by
  decide +kernel

/-- The table of powers of ten is exact. -/
theorem toRat?_powerOfTen {k : ℕ} (h : k < Float.exactlyRepresentablePowersOfTen.size) :
    toRat? Float.exactlyRepresentablePowersOfTen[k] = some (10 ^ k) := by
  obtain ⟨d, hd, same⟩ := (Option.any_eq_true _ _).1 (numerator_powerOfTen ⟨k, h⟩)
  rw [Bool.and_eq_true, Bool.not_eq_true', beq_iff_eq] at same
  obtain ⟨positive, same⟩ := same
  have nonzero : (d.denominator : ℚ) ≠ 0 := by exact_mod_cast d.denominator_pos.ne'
  have value := value_eq d
  rw [positive, size_eq_div, same] at value
  show (Decimal.Dyadic.ofFloat? Float.exactlyRepresentablePowersOfTen[k]).map _ = _
  rw [Fin.getElem_fin] at hd
  rw [hd, Option.map_some, value]
  push_cast
  rw [mul_div_cancel_right₀ _ nonzero]
  rfl

/-- An integer of 64 bits is rounded once. -/
theorem toRat?_toFloat (n : UInt64) : toRat? n.toFloat = round? n.toNat := by
  rw [toRat?_eq]
  show valueOf? (Model.pack (UnpackedFloat.normalize binary64 (n.toNat : ℤ) 0 .positive)).unpack = _
  rcases Nat.eq_zero_or_pos n.toNat with zero | pos
  · rw [zero]
    exact (valueOf?_pack_zero .positive).trans (by rw [Nat.cast_zero])
  · have round : UnpackedFloat.normalize binary64 (n.toNat : ℤ) 0 .positive
        = UnpackedFloat.round binary64 .positive n.toNat 0 := by
      unfold UnpackedFloat.normalize
      rw [Int.compare_eq_gt.2 (by exact_mod_cast pos)]
      rfl
    rw [round, valueOf?_round .positive pos 0, zpow_zero, mul_one]
    rfl

/-- A natural number of 53 bits is converted exactly. -/
theorem toRat?_toUInt64_toFloat {m : ℕ} (h : m < 2 ^ 53) :
    toRat? m.toUInt64.toFloat = some (m : ℚ) := by
  have same : m.toUInt64.toNat = m := Nat.mod_eq_of_lt (by omega)
  have bits : |(m : ℤ)| ≤ 2 ^ 53 := by
    rw [Nat.abs_cast]
    exact_mod_cast h.le
  rw [toRat?_toFloat, same]
  exact_mod_cast round?_of_bits bits

/-- **A decimal is rounded once.** -/
theorem toRat?_ofScientific (m : ℕ) (s : Bool) (e : ℕ) :
    toRat? (Float.ofScientific m s e) = round? (m * 10 ^ (if s then -(e : ℤ) else e)) := by
  unfold Float.ofScientific
  split
  · rename_i short
    have ten := toRat?_powerOfTen (show e < 23 by omega)
    have whole := toRat?_toUInt64_toFloat short.1
    cases s with
    | true =>
        refine (toRat?_div whole ten (by positivity)).trans ?_
        rw [if_pos rfl, zpow_neg, zpow_natCast, div_eq_mul_inv]
    | false =>
        refine (toRat?_mul whole ten).trans ?_
        rw [if_neg Bool.false_ne_true, zpow_natCast]
  · rw [toRat?_eq]
    cases s with
    | true =>
        refine (valueOf?_ofScientific m _).trans ?_
        rw [if_pos rfl, if_pos rfl, Int.negOfNat_eq]
        rfl
    | false => exact valueOf?_ofScientific m e

theorem toRat?_zero : toRat? 0.0 = some 0 := by
  refine (toRat?_ofScientific 0 true 1).trans ?_
  rw [Nat.cast_zero, zero_mul, round?_zero]

/-! ## §4. Integers. -/

/-- A natural number is rounded once. -/
theorem toRat?_ofNat (n : ℕ) : toRat? (Float.ofNat n) = round? n := by
  have exact := toRat?_ofScientific n false 0
  rw [if_neg Bool.false_ne_true, Nat.cast_zero, zpow_zero, mul_one] at exact
  exact exact

/-- The sign comes before the rounding or behind it. -/
theorem round?_neg (q : ℚ) : round? (-q) = (round? q).map (-·) := by
  unfold round?
  rw [nearest_neg, abs_neg]
  split <;> rfl

/-- **An integer is rounded once.** -/
theorem toRat?_ofInt (n : ℤ) : toRat? (Float.ofInt n) = round? n := by
  cases n with
  | ofNat n => exact toRat?_ofNat n
  | negSucc n =>
      show toRat? (-Float.ofNat (n + 1)) = _
      rw [toRat?_neg, toRat?_ofNat, ← round?_neg]
      congr 1

theorem abs_toInt_le (n : Int64) : |n.toInt| ≤ 2 ^ 63 := by
  have low := n.le_toInt
  have high := n.toInt_lt
  exact abs_le.2 ⟨by omega, by omega⟩

/-- A 64-bit integer is finite as a float, and an integer. -/
theorem toRat?_ofInt64 (n : Int64) :
    toRat? (Decimal.ofInt64 n) = some (nearestInt n.toInt : ℚ) := by
  unfold Decimal.ofInt64
  rw [toRat?_ofInt]
  exact round?_intCast (abs_toInt_le n)

/-- Rounding leaves a 64-bit integer within `2^63`. -/
theorem abs_nearestInt_le (n : Int64) : |nearestInt n.toInt| ≤ 2 ^ 63 := by
  have binary : IsBinary (2 ^ 63) := isBinary_two_zpow (e := 63) (by norm_num)
  have size : |((n.toInt : ℤ) : ℚ)| ≤ 2 ^ 63 := by exact_mod_cast abs_toInt_le n
  have bound := abs_nearest_le binary size
  rw [nearest_intCast] at bound
  exact_mod_cast bound

/-! ## §5. Decimals of any size. -/

/-- **A decimal with an exponent of any size is rounded once.** -/
theorem toRat?_floatOfScientific (m : ℕ) (e : ℤ) :
    toRat? (Decimal.floatOfScientific m e) = round? (m * 10 ^ e) := by
  unfold Decimal.floatOfScientific
  by_cases nothing : m = 0
  · rw [if_pos nothing, nothing, Nat.cast_zero, zero_mul, round?_zero, toRat?_zero]
  have pos : 0 < m := Nat.pos_of_ne_zero nothing
  rw [if_neg nothing]
  split
  · rename_i large
    have infinite : Decimal.Dyadic.ofFloat? (1.0 / 0.0) = none := by decide +kernel
    rw [round?_of_large (two_pow_le_decimal pos large)]
    unfold toRat?
    rw [infinite, Option.map_none]
  · split
    · rename_i small
      rw [round?_of_small (decimal_lt_two_zpow pos small), toRat?_zero]
    · rw [toRat?_ofScientific]
      congr 2
      by_cases negative : e < 0
      · rw [decide_eq_true negative, if_pos rfl]
        congr 1
        omega
      · rw [decide_eq_false negative, if_neg Bool.false_ne_true]
        congr 1
        omega

end Recordwise.Binary64
