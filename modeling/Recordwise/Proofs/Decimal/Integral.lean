/-
  Recordwise.Proofs.Decimal.Integral
  ──────────────────────────────────
  **Floats that are integers.**

  A dyadic tells by its numerator and denominator whether it is an integer,
  and its integer part is then the integer itself.  The roundings to an
  integer leave such a float alone, and the remainder of two of them is the
  remainder of the integers, without rounding.  Main statements:

      isIntegral_iff_value — integral means: the number is an integer
      toInt64_eq           — which is taken over into 64 bits
      roundBy_eq_self      — an integer is rounded to itself
      toRat?_remainder     — the remainder of integers is exact
-/
import Recordwise.Proofs.Decimal.Conversion

namespace Recordwise.Binary64

/-! ## §1. Integral dyadics. -/

theorem value_eq_div (d : Decimal.Dyadic) :
    d.value = signed (if d.negative then .negative else .positive)
      ((d.numerator : ℚ) / d.denominator) := by
  rw [← size_eq_div, value_eq]

theorem abs_value_eq_div (d : Decimal.Dyadic) : |d.value| = (d.numerator : ℚ) / d.denominator := by
  rw [abs_value, size_eq_div]

/-- The number of an integral dyadic is its integer part. -/
theorem value_of_isIntegral {d : Decimal.Dyadic} (h : d.isIntegral = true) :
    d.value = d.truncate := by
  have nonzero : (d.denominator : ℚ) ≠ 0 := by exact_mod_cast d.denominator_pos.ne'
  have whole : (d.numerator : ℚ) / d.denominator = (d.numerator / d.denominator : ℕ) := by
    have split := (Decimal.Dyadic.isIntegral_iff d).1 h
    rw [div_eq_iff nonzero]
    exact_mod_cast split.symm
  rw [value_eq_div, whole]
  unfold Decimal.Dyadic.truncate Decimal.Dyadic.signed
  cases d.negative with
  | true =>
      show -((d.numerator / d.denominator : ℕ) : ℚ)
        = ((-((d.numerator / d.denominator : ℕ) : ℤ) : ℤ) : ℚ)
      push_cast
      rfl
  | false => rfl

/-- A dyadic whose number is an integer is integral. -/
theorem isIntegral_of_value {d : Decimal.Dyadic} {k : ℤ} (h : d.value = k) :
    d.isIntegral = true := by
  have nonzero : (d.denominator : ℚ) ≠ 0 := by exact_mod_cast d.denominator_pos.ne'
  have whole : (d.numerator : ℚ) = k.natAbs * d.denominator := by
    rw [← div_eq_iff nonzero, ← abs_value_eq_div, h, Nat.cast_natAbs, Int.cast_abs]
  have whole : d.numerator = k.natAbs * d.denominator := by exact_mod_cast whole
  unfold Decimal.Dyadic.isIntegral
  rw [whole, Nat.mul_mod_left]
  rfl

/-! ## §2. Integral floats. -/

variable {x y : Float}

/-- **Integral means: the number is an integer.** -/
theorem isIntegral_iff_value {q : ℚ} (h : toRat? x = some q) :
    Decimal.isIntegral x = true ↔ ∃ k : ℤ, q = k := by
  obtain ⟨d, hd, rfl⟩ := Option.map_eq_some_iff.1 h
  unfold Decimal.isIntegral
  rw [hd]
  constructor
  · intro integral
    exact ⟨_, value_of_isIntegral integral⟩
  · rintro ⟨k, value⟩
    exact isIntegral_of_value value

theorem isIntegral_of_none (h : toRat? x = none) : Decimal.isIntegral x = false := by
  unfold Decimal.isIntegral
  rw [Option.map_eq_none_iff.1 h]

/-- **The integer is taken over into 64 bits.** -/
theorem toInt64_eq {k : ℤ} (h : toRat? x = some (k : ℚ)) :
    Decimal.toInt64 x = Decimal.clampInt64 k := by
  obtain ⟨d, hd, value⟩ := Option.map_eq_some_iff.1 h
  have same : d.truncate = k := by
    have integral := value_of_isIntegral (isIntegral_of_value value)
    rw [value] at integral
    exact_mod_cast integral.symm
  unfold Decimal.toInt64
  rw [hd, ← same]

/-- **An integer is rounded to itself.** -/
theorem roundBy_eq_self (f : Decimal.Dyadic → ℕ) {k : ℤ} (h : toRat? x = some (k : ℚ)) :
    Decimal.roundBy f x = x := by
  obtain ⟨d, hd, value⟩ := Option.map_eq_some_iff.1 h
  unfold Decimal.roundBy
  rw [hd]
  exact if_pos (isIntegral_of_value value)

/-! ## §3. Remainders. -/

/-- The float of a magnitude in units of a power of two. -/
theorem toRat?_magnitude (n : ℕ) (e : ℤ) :
    toRat? (Decimal.Dyadic.magnitude n e) = round? (n * 2 ^ e) := by
  unfold Decimal.Dyadic.magnitude
  by_cases part : e < 0
  · obtain ⟨k, rfl⟩ := Int.exists_eq_neg_ofNat part.le
    have ten : (10 : ℚ) ^ k = 5 ^ k * 2 ^ k := by
      rw [← mul_pow]
      norm_num
    have five : (5 : ℚ) ^ k ≠ 0 := by positivity
    have two : (2 : ℚ) ^ k ≠ 0 := by positivity
    rw [if_pos part, neg_neg, Int.toNat_natCast, toRat?_ofScientific, if_pos rfl, Nat.pow_eq,
      zpow_neg, zpow_neg, zpow_natCast, zpow_natCast, ten]
    congr 1
    push_cast
    field_simp
  · obtain ⟨k, rfl⟩ := Int.eq_ofNat_of_zero_le (not_lt.1 part)
    rw [if_neg part, Int.toNat_natCast, toRat?_ofNat, Nat.pow_eq, zpow_natCast]
    push_cast
    rfl

theorem toRat?_withSign (d : Decimal.Dyadic) (x : Float) :
    toRat? (d.withSign x)
      = (toRat? x).map (signed (if d.negative then .negative else .positive)) := by
  unfold Decimal.Dyadic.withSign
  cases d.negative with
  | true => exact toRat?_neg x
  | false => exact Option.map_id'.symm

/-- The remainder of integers in units of a power of two. -/
theorem mod_units {a b m n : ℕ} {e : ℤ} (hm : (m : ℚ) = a * 2 ^ e) (hn : (n : ℚ) = b * 2 ^ e) :
    ((a % b : ℕ) : ℚ) * 2 ^ e = (m % n : ℕ) := by
  -- the unit goes into both integers, or both counts of units are multiples of it
  rcases le_total 0 e with whole | part
  · obtain ⟨k, rfl⟩ := Int.eq_ofNat_of_zero_le whole
    rw [zpow_natCast] at hm hn ⊢
    have hm : m = a * 2 ^ k := by exact_mod_cast hm
    have hn : n = b * 2 ^ k := by exact_mod_cast hn
    rw [hm, hn, Nat.mul_mod_mul_right]
    push_cast
    rfl
  · obtain ⟨k, rfl⟩ := Int.exists_eq_neg_ofNat part
    have two : (2 : ℚ) ^ k ≠ 0 := by positivity
    rw [zpow_neg, zpow_natCast] at hm hn ⊢
    have ha : a = m * 2 ^ k := by
      have ha : (a : ℚ) = m * 2 ^ k := by rw [hm, inv_mul_cancel_right₀ two]
      exact_mod_cast ha
    have hb : b = n * 2 ^ k := by
      have hb : (b : ℚ) = n * 2 ^ k := by rw [hn, inv_mul_cancel_right₀ two]
      exact_mod_cast hb
    rw [ha, hb, Nat.mul_mod_mul_right]
    push_cast
    rw [mul_inv_cancel_right₀ two]

/-- A magnitude in smaller units. -/
theorem smaller_units (m : ℕ) {e f : ℤ} (h : e ≤ f) :
    ((m * Nat.pow 2 (f - e).toNat : ℕ) : ℚ) * 2 ^ e = m * 2 ^ f := by
  rw [two_zpow_eq_mul h, Nat.pow_eq, Nat.cast_mul, mul_assoc]

open Float.Model.UnpackedFloat (Sign) in
/-- The remainder takes the sign of the dividend. -/
theorem signed_mod (s : Sign) (m : ℕ) (b : ℤ) :
    signed s ((m % b.natAbs : ℕ) : ℚ) = (((s.apply m).tmod b : ℤ) : ℚ) := by
  have whole : Int.tmod m b = (m % b.natAbs : ℕ) := by
    cases b with
    | ofNat n => rfl
    | negSucc n => rfl
  cases s with
  | negative =>
      show -((m % b.natAbs : ℕ) : ℚ) = (((-(m : ℤ)).tmod b : ℤ) : ℚ)
      rw [Int.neg_tmod, whole, Int.cast_neg, Int.cast_natCast]
  | positive =>
      show ((m % b.natAbs : ℕ) : ℚ) = (((m : ℤ).tmod b : ℤ) : ℚ)
      rw [whole, Int.cast_natCast]

/-- An integer is its magnitude with the sign of its dyadic. -/
theorem apply_natAbs {d : Decimal.Dyadic} {a : ℤ} (value : d.value = a) :
    (if d.negative then .negative else .positive : Float.Model.UnpackedFloat.Sign).apply a.natAbs
      = a := by
  have size := units_nonneg d.mantissa d.exponent
  have sign := value_eq d
  rw [value] at sign
  cases negative : d.negative with
  | true =>
      rw [negative] at sign
      have below : (a : ℚ) ≤ 0 := sign.trans_le (neg_nonpos.2 size)
      have below : a ≤ 0 := by exact_mod_cast below
      show -(a.natAbs : ℤ) = a
      omega
  | false =>
      rw [negative] at sign
      have above : (0 : ℚ) ≤ a := size.trans_eq sign.symm
      have above : 0 ≤ a := by exact_mod_cast above
      show (a.natAbs : ℤ) = a
      omega

/-- **The remainder of integers is exact.** -/
theorem toRat?_remainder {a b : ℤ} (hx : toRat? x = some (a : ℚ)) (hy : toRat? y = some (b : ℚ))
    (nonzero : b ≠ 0) : toRat? (Decimal.remainder x y) = some ((a.tmod b : ℤ) : ℚ) := by
  obtain ⟨d, hd, valued⟩ := Option.map_eq_some_iff.1 hx
  obtain ⟨c, hc, valuec⟩ := Option.map_eq_some_iff.1 hy
  obtain ⟨canonicald, mostd⟩ := isCanonical_of_ofFloat? hd
  obtain ⟨canonicalc, mostc⟩ := isCanonical_of_ofFloat? hc
  have positive : c.mantissa ≠ 0 := by
    intro zero
    have size := abs_value c
    rw [zero, Nat.cast_zero, zero_mul, abs_eq_zero, valuec] at size
    exact nonzero (by exact_mod_cast size)
  unfold Decimal.remainder
  rw [hd, hc]
  dsimp only
  rw [if_neg positive]
  unfold Decimal.Dyadic.remainder
  dsimp only
  generalize he : min d.exponent c.exponent = e
  have unitsd := smaller_units d.mantissa (show e ≤ d.exponent by omega)
  have unitsc := smaller_units c.mantissa (show e ≤ c.exponent by omega)
  -- one of the two keeps its mantissa, and the remainder is not above it
  have bits : d.mantissa * Nat.pow 2 (d.exponent - e).toNat
      % (c.mantissa * Nat.pow 2 (c.exponent - e).toNat) < 2 ^ 53 := by
    rcases min_choice d.exponent c.exponent with least | least
    · have same : Nat.pow 2 (d.exponent - e).toNat = 1 := by
        rw [← he, least, sub_self]
        rfl
      rw [same, mul_one]
      exact (Nat.mod_le _ _).trans_lt canonicald.bits
    · have same : Nat.pow 2 (c.exponent - e).toNat = 1 := by
        rw [← he, least, sub_self]
        rfl
      rw [same, mul_one]
      exact (Nat.mod_lt _ (Nat.pos_of_ne_zero positive)).trans canonicalc.bits
  rw [← abs_value, valued, ← Int.cast_abs, ← Nat.cast_natAbs] at unitsd
  rw [← abs_value, valuec, ← Int.cast_abs, ← Nat.cast_natAbs] at unitsc
  have rest := mod_units unitsd.symm unitsc.symm
  have exact : round? ((a.natAbs % b.natAbs : ℕ) : ℚ) = some ((a.natAbs % b.natAbs : ℕ) : ℚ) := by
    have least : -1074 ≤ e := by
      have := canonicald.least
      have := canonicalc.least
      omega
    have range : |((a.natAbs % b.natAbs : ℕ) : ℚ)| < 2 ^ 1024 := by
      have size : |(a : ℚ)| < 2 ^ 1024 := by
        rw [← valued, abs_value]
        exact canonicald.lt_iff.2 mostd
      have less : ((a.natAbs % b.natAbs : ℕ) : ℚ) ≤ (a.natAbs : ℕ) := by
        exact_mod_cast Nat.mod_le _ _
      rw [Nat.cast_natAbs, Int.cast_abs] at less
      rw [Nat.abs_cast]
      exact less.trans_lt size
    refine round?_of_isBinary ⟨_, e, ?_, least, rest.symm⟩ range
    rw [Nat.abs_cast]
    exact_mod_cast bits
  rw [toRat?_withSign, toRat?_magnitude, rest, exact, Option.map_some, signed_mod,
    apply_natAbs valued]

end Recordwise.Binary64
