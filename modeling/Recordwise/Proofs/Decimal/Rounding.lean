/-
  Recordwise.Proofs.Decimal.Rounding
  ──────────────────────────────────
  **Rounding with a round bit and a sticky bit is rounding to the nearest.**

  The logical model of `Float` rounds a mantissa by shifting its last bits out:
  the last of them is kept as the round bit, and the sticky bit says whether
  any before it was set.  Two bits know enough of the number to find the
  nearest integer, so what is packed is the nearest binary64 number.  Main
  statements:

      Represents.shiftRight          — shifting halves what is represented
      Represents.roundedMantissa_eq  — the two bits decide the nearest integer
      valueOf?_pack_round            — a rounded float has the number nearest to
                                       the one represented, or is an infinity
-/
import Recordwise.Proofs.Decimal.Encoding

namespace Recordwise.Binary64

open Float (Model)
open Float.Model (UnpackedFloat totalExponent)
open Float.Model.Format (binary64)
open Float.Model.UnpackedFloat (Sign ExtendedMantissa Accuracy roundWithAccuracy
  shiftToTargetExponent)

/-! ## §1. What a mantissa with two more bits represents. -/

/-- The numbers that a mantissa, a round bit and a sticky bit stand for. -/
inductive Represents : ExtendedMantissa → ℚ → Prop where
  /-- The mantissa itself. -/
  | exact (m : ℕ) : Represents ⟨m, false, false⟩ m
  /-- A little more, less than a half. -/
  | low {m : ℕ} {x : ℚ} : (m : ℚ) < x → x < m + 1 / 2 → Represents ⟨m, false, true⟩ x
  /-- Half more. -/
  | half (m : ℕ) : Represents ⟨m, true, false⟩ (m + 1 / 2)
  /-- More than a half, less than one. -/
  | high {m : ℕ} {x : ℚ} : (m : ℚ) + 1 / 2 < x → x < m + 1 → Represents ⟨m, true, true⟩ x

theorem Represents.le {em : ExtendedMantissa} {x : ℚ} (h : Represents em x) : em.mantissa ≤ x := by
  cases h <;> linarith

theorem Represents.lt {em : ExtendedMantissa} {x : ℚ} (h : Represents em x) :
    x < em.mantissa + 1 := by
  cases h <;> linarith

/-- The bit shifted out of an even mantissa is not set. -/
theorem Represents.half_even {k : ℕ} {r s : Bool} {x : ℚ} (h : Represents ⟨2 * k, r, s⟩ x) :
    Represents ⟨k, false, r || s⟩ (x / 2) := by
  have size : ((2 * k : ℕ) : ℚ) = 2 * k := by push_cast; rfl
  cases h with
  | exact =>
      rw [size, mul_div_cancel_left₀ _ (by norm_num)]
      exact .exact k
  | low above below =>
      rw [size] at above below
      exact .low (by linarith) (by linarith)
  | half =>
      rw [size]
      exact .low (by linarith) (by linarith)
  | high above below =>
      rw [size] at above below
      exact .low (by linarith) (by linarith)

/-- The bit shifted out of an odd mantissa is a half. -/
theorem Represents.half_odd {k : ℕ} {r s : Bool} {x : ℚ} (h : Represents ⟨2 * k + 1, r, s⟩ x) :
    Represents ⟨k, true, r || s⟩ (x / 2) := by
  have size : ((2 * k + 1 : ℕ) : ℚ) = 2 * k + 1 := by push_cast; rfl
  cases h with
  | exact =>
      rw [size, show (2 * (k : ℚ) + 1) / 2 = k + 1 / 2 by ring]
      exact .half k
  | low above below =>
      rw [size] at above below
      exact .high (by linarith) (by linarith)
  | half =>
      rw [size]
      exact .high (by linarith) (by linarith)
  | high above below =>
      rw [size] at above below
      exact .high (by linarith) (by linarith)

/-- Shifting by one bit halves what is represented. -/
theorem Represents.shiftRightOne {em : ExtendedMantissa} {x : ℚ} (h : Represents em x) :
    Represents em.shiftRightOne (x / 2) := by
  obtain ⟨m, r, s⟩ := em
  obtain ⟨k, rfl | rfl⟩ := m.even_or_odd'
  · have shifted : ExtendedMantissa.shiftRightOne ⟨2 * k, r, s⟩ = ⟨k, false, r || s⟩ := by
      simp [ExtendedMantissa.shiftRightOne]
    rw [shifted]
    exact h.half_even
  · have half : (2 * k + 1) / 2 = k := by omega
    have shifted : ExtendedMantissa.shiftRightOne ⟨2 * k + 1, r, s⟩ = ⟨k, true, r || s⟩ := by
      simp [ExtendedMantissa.shiftRightOne, half]
    rw [shifted]
    exact h.half_odd

/-- **Shifting halves what is represented.** -/
theorem Represents.shiftRight {em : ExtendedMantissa} {x : ℚ} (h : Represents em x) (n : ℕ) :
    Represents (em >>> n) (x / 2 ^ n) := by
  -- one bit at a time: each becomes the round bit, and the one before it joins the sticky bit
  show Represents (n.repeat ExtendedMantissa.shiftRightOne em) _
  induction n with
  | zero => simpa [Nat.repeat] using h
  | succ n ih =>
      have step := ih.shiftRightOne
      rwa [div_div, ← pow_succ] at step

/-- **The two bits decide the nearest integer.** -/
theorem Represents.roundedMantissa_eq {em : ExtendedMantissa} {x : ℚ} (h : Represents em x) :
    (em.roundedMantissa : ℤ) = halfEven x := by
  symm
  cases h with
  | exact m => exact halfEven_intCast m
  | @low m x above below =>
      have near : |x - (m : ℤ)| < 1 / 2 := by
        rw [abs_lt]
        push_cast
        constructor <;> linarith
      exact halfEven_eq_of_abs_lt near
  | half m =>
      have tie := halfEven_add_half m
      exact_mod_cast tie
  | @high m x above below =>
      have near : |x - ((m + 1 : ℕ) : ℤ)| < 1 / 2 := by
        rw [abs_lt]
        push_cast
        constructor <;> linarith
      exact halfEven_eq_of_abs_lt near

/-! ## §2. The exponent that a number is rounded to. -/

/-- The exponent of the leading bit. -/
theorem log_eq {m : ℕ} (pos : 0 < m) {x : ℚ} (low : m ≤ x) (high : x < m + 1) (e : ℤ) :
    Int.log 2 (x * 2 ^ e) = m.log2 + e := by
  have positive : 0 < x := lt_of_lt_of_le (by exact_mod_cast pos) low
  have least : (2 : ℚ) ^ m.log2 ≤ x := by
    have power : 2 ^ m.log2 ≤ m := (Nat.le_log2 pos.ne').1 le_rfl
    exact le_trans (by exact_mod_cast power) low
  have most : x < (2 : ℚ) ^ (m.log2 + 1) := by
    have power : m + 1 ≤ 2 ^ (m.log2 + 1) := (Nat.log2_lt pos.ne').1 (Nat.lt_succ_self _)
    exact lt_of_lt_of_le high (by exact_mod_cast power)
  have unit := two_zpow_pos e
  apply le_antisymm
  · rw [← Int.lt_add_one_iff, ← Int.lt_zpow_iff_log_lt (by norm_num) (by positivity)]
    have bound : (2 : ℚ) ^ (((m.log2 : ℤ) + e) + 1) = 2 ^ (m.log2 + 1) * 2 ^ e := by
      rw [show ((m.log2 : ℤ) + e) + 1 = ((m.log2 + 1 : ℕ) : ℤ) + e by push_cast; ring,
        two_zpow_add, zpow_natCast]
    exact_mod_cast bound ▸ mul_lt_mul_of_pos_right most unit
  · rw [← Int.zpow_le_iff_le_log (by norm_num) (by positivity)]
    have bound : (2 : ℚ) ^ ((m.log2 : ℤ) + e) = 2 ^ m.log2 * 2 ^ e := by
      rw [two_zpow_add, zpow_natCast]
    exact_mod_cast bound ▸ mul_le_mul_of_nonneg_right least unit.le

theorem targetExponent_eq (m : ℕ) (e : ℤ) :
    binary64.targetExponent (totalExponent m e) = max (m.log2 + e - 52) (-1074) := by
  show max (((m.log2 : ℕ) : ℤ) + 1 + e - 53) (-1074) = _
  congr 1
  ring

/-- The model rounds to the unit around the number, if its mantissa is not too
coarse for it. -/
theorem targetExponent_eq_unit {m : ℕ} {x : ℚ} (positive : 0 < x) (low : m ≤ x)
    (high : x < m + 1) {e : ℤ} (coarse : e ≤ unitExponent (x * 2 ^ e)) :
    binary64.targetExponent (totalExponent m e) = unitExponent (x * 2 ^ e) := by
  have size : 0 < x * 2 ^ e := mul_pos positive (two_zpow_pos e)
  rw [targetExponent_eq]
  unfold unitExponent at coarse ⊢
  rw [abs_of_pos size] at coarse ⊢
  rcases Nat.eq_zero_or_pos m with zero | pos
  · -- less than one, so that its unit is the least
    have log : Int.log 2 (x * 2 ^ e) < e := by
      rw [← Int.lt_zpow_iff_log_lt (by norm_num) size]
      have below : x < 1 := by simpa [zero] using high
      exact_mod_cast mul_lt_of_lt_one_left (two_zpow_pos e) below
    subst zero
    rw [Nat.log2_zero]
    omega
  · rw [log_eq pos low high]

/-! ## §3. Rounding. -/

theorem roundWithAccuracy_eq {s : Sign} {m : ℕ} {e : ℤ} {acc : Accuracy}
    {em em' : ExtendedMantissa} {f f' : ℤ}
    (first : shiftToTargetExponent binary64 m e acc = (em, f))
    (second : shiftToTargetExponent binary64 em.roundedMantissa f .exact = (em', f')) :
    roundWithAccuracy binary64 s m e acc
      = if h : em'.mantissa = 0 then .zero s
        else .finite s em'.mantissa f' (Nat.pos_of_ne_zero h) := by
  unfold roundWithAccuracy
  rw [first]
  dsimp only
  rw [second]

/-- The first shift leaves the number in the units around it. -/
theorem shiftToTargetExponent_eq {m : ℕ} {e : ℤ} {acc : Accuracy} {x : ℚ}
    (represents : Represents (.ofMantissaAndAccuracy m acc) x) (positive : 0 < x)
    (coarse : e ≤ unitExponent (x * 2 ^ e)) :
    ∃ em, shiftToTargetExponent binary64 m e acc = (em, unitExponent (x * 2 ^ e))
      ∧ (em.roundedMantissa : ℚ) * 2 ^ unitExponent (x * 2 ^ e) = nearest (x * 2 ^ e) := by
  have mantissa : (ExtendedMantissa.ofMantissaAndAccuracy m acc).mantissa = m := by
    unfold ExtendedMantissa.ofMantissaAndAccuracy
    split <;> rfl
  have target := targetExponent_eq_unit positive (mantissa ▸ represents.le)
    (mantissa ▸ represents.lt) coarse
  set u := unitExponent (x * 2 ^ e) with hu
  have shift : ((u - e).toNat : ℤ) = u - e := Int.toNat_of_nonneg (by omega)
  refine ⟨ExtendedMantissa.ofMantissaAndAccuracy m acc >>> (u - e).toNat, ?_, ?_⟩
  · show (ExtendedMantissa.ofMantissaAndAccuracy m acc
        >>> (binary64.targetExponent (totalExponent m e) - e).toNat,
      e + ((binary64.targetExponent (totalExponent m e) - e).toNat : ℤ)) = _
    rw [target, shift, add_sub_cancel]
  · have units : x / 2 ^ (u - e).toNat = x * 2 ^ e / 2 ^ u := by
      rw [← zpow_natCast, shift, zpow_sub₀ (by norm_num), div_div_eq_mul_div]
    have rounded := (represents.shiftRight (u - e).toNat).roundedMantissa_eq
    unfold nearest
    rw [units] at rounded
    rw [← hu, ← rounded, Int.cast_natCast]

/-- The second shift takes a carry in. -/
theorem shiftToTargetExponent_exact {k : ℕ} {u : ℤ} (least : -1074 ≤ u) (bits : k ≤ 2 ^ 53)
    (full : 2 ^ 52 ≤ k ∨ u = -1074) :
    ∃ em f, shiftToTargetExponent binary64 k u .exact = (em, f)
      ∧ IsCanonical em.mantissa f ∧ (em.mantissa : ℚ) * 2 ^ f = k * 2 ^ u := by
  have target := targetExponent_eq k u
  have shifted (t : ℤ) (h : binary64.targetExponent (totalExponent k u) = t) :
      shiftToTargetExponent binary64 k u .exact
        = ((⟨k, false, false⟩ : ExtendedMantissa) >>> (t - u).toNat, u + ((t - u).toNat : ℤ)) := by
    rw [← h]
    rfl
  by_cases carry : k = 2 ^ 53
  · -- one bit too many: the last of the mantissa is zero, and is shifted out
    have next : max (((k.log2 : ℕ) : ℤ) + u - 52) (-1074) = u + 1 := by
      have log : k.log2 = 53 := by rw [carry, Nat.log2_two_pow]
      omega
    have one : (u + 1 - u).toNat = 1 := by omega
    have power : (2 : ℚ) ^ (u + 1) = 2 * 2 ^ u := by
      rw [two_zpow_add, zpow_one]
      ring
    refine ⟨_, _, shifted _ (target.trans next), ?_⟩
    rw [one, carry]
    show IsCanonical (2 ^ 53 / 2) (u + 1) ∧ ((2 ^ 53 / 2 : ℕ) : ℚ) * 2 ^ (u + 1) = _
    rw [power]
    refine ⟨⟨by norm_num, by omega, Or.inl (by norm_num)⟩, ?_⟩
    push_cast
    ring
  · -- nothing is shifted
    have short : k.log2 ≤ 52 := by
      rcases Nat.eq_zero_or_pos k with zero | pos
      · rw [zero, Nat.log2_zero]
        omega
      · have := (Nat.log2_lt pos.ne').2 (show k < 2 ^ 53 by omega)
        omega
    have none : (max (((k.log2 : ℕ) : ℤ) + u - 52) (-1074) - u).toNat = 0 := by omega
    refine ⟨_, _, shifted _ target, ?_⟩
    rw [none]
    show IsCanonical k (u + 0) ∧ (k : ℚ) * 2 ^ (u + 0) = _
    rw [add_zero]
    exact ⟨⟨by omega, least, full⟩, rfl⟩

/-- Rounding gives the nearest number in canonical form. -/
theorem roundWithAccuracy_cases {m : ℕ} {e : ℤ} {acc : Accuracy} {x : ℚ}
    (represents : Represents (.ofMantissaAndAccuracy m acc) x) (positive : 0 < x)
    (coarse : e ≤ unitExponent (x * 2 ^ e)) :
    ∃ k f, IsCanonical k f ∧ nearest (x * 2 ^ e) = k * 2 ^ f ∧ ∀ s,
      roundWithAccuracy binary64 s m e acc
        = if h : k = 0 then .zero s else .finite s k f (Nat.pos_of_ne_zero h) := by
  have size : 0 < x * 2 ^ e := mul_pos positive (two_zpow_pos e)
  obtain ⟨em, first, units⟩ := shiftToTargetExponent_eq represents positive coarse
  have whole : (em.roundedMantissa : ℤ)
      = halfEven (x * 2 ^ e / 2 ^ unitExponent (x * 2 ^ e)) := by
    have same := mul_right_cancel₀ (two_zpow_pos _).ne' units
    exact_mod_cast same
  have bits := abs_halfEven_units_le (x * 2 ^ e)
  -- rounding does not go below the leading bit
  have full : 2 ^ 52 ≤ em.roundedMantissa ∨ unitExponent (x * 2 ^ e) = -1074 := by
    by_cases normal : -1074 < unitExponent (x * 2 ^ e)
    · have above := unit_le_abs size.ne' normal
      rw [abs_of_pos size, ← le_div_iff₀ (two_zpow_pos _)] at above
      have above : (2 ^ 52 : ℤ) ≤ em.roundedMantissa := by
        rw [whole]
        exact le_halfEven (by exact_mod_cast above)
      exact Or.inl (by exact_mod_cast above)
    · have least := le_unitExponent (x * 2 ^ e)
      exact Or.inr (by omega)
  rw [← whole] at bits
  obtain ⟨em', f, second, canonical, same⟩ :=
    shiftToTargetExponent_exact (le_unitExponent _) (by exact_mod_cast (abs_le.1 bits).2) full
  exact ⟨em'.mantissa, f, canonical, by rw [same, units],
    fun s => roundWithAccuracy_eq first second⟩

theorem nearest_signed (s : Sign) (q : ℚ) : nearest (signed s q) = signed s (nearest q) := by
  cases s with
  | negative => exact nearest_neg q
  | positive => rfl

/-- A canonical number is below the bound of all of them when its exponent is
small enough to be packed. -/
theorem IsCanonical.lt_iff {m : ℕ} {e : ℤ} (h : IsCanonical m e) :
    (m : ℚ) * 2 ^ e < 2 ^ 1024 ↔ e ≤ 971 := by
  have unit := two_zpow_pos e
  have power : (2 : ℚ) ^ 1024 = 2 ^ 52 * 2 ^ (972 : ℤ) := by
    rw [← zpow_natCast, ← zpow_natCast, ← two_zpow_add]
    norm_num
  constructor
  · intro below
    by_contra large
    have full : 2 ^ 52 ≤ m := by
      have := h.full
      omega
    have leading : (2 : ℚ) ^ 52 ≤ m := by exact_mod_cast full
    have above : (2 : ℚ) ^ 1024 ≤ m * 2 ^ e :=
      calc (2 : ℚ) ^ 1024 = 2 ^ 52 * 2 ^ (972 : ℤ) := power
        _ ≤ 2 ^ 52 * 2 ^ e := mul_le_mul_of_nonneg_left (two_zpow_le (by omega)) (by norm_num)
        _ ≤ m * 2 ^ e := mul_le_mul_of_nonneg_right leading unit.le
    exact absurd below (not_lt.2 above)
  · intro small
    have bits : (m : ℚ) < 2 ^ 53 := by exact_mod_cast h.bits
    calc (m : ℚ) * 2 ^ e < 2 ^ 53 * 2 ^ e := mul_lt_mul_of_pos_right bits unit
      _ ≤ 2 ^ 53 * 2 ^ (971 : ℤ) := mul_le_mul_of_nonneg_left (two_zpow_le small) (by norm_num)
      _ = 2 ^ 1024 := by
        rw [← zpow_natCast, ← zpow_natCast, ← two_zpow_add]
        norm_num

/-- The number of a float is its own nearest, and in the range. -/
theorem round?_of_toRat? {x : Float} {q : ℚ} (h : toRat? x = some q) : round? q = some q := by
  obtain ⟨d, hd, rfl⟩ := Option.map_eq_some_iff.1 h
  obtain ⟨canonical, most⟩ := isCanonical_of_ofFloat? hd
  have bits : |d.signed d.mantissa| < 2 ^ 53 := by
    have size : |d.signed d.mantissa| = d.mantissa := by
      unfold Decimal.Dyadic.signed
      split
      · rw [abs_neg, Nat.abs_cast]
      · rw [Nat.abs_cast]
    rw [size]
    exact_mod_cast canonical.bits
  have range : |d.value| < 2 ^ 1024 := by
    rw [abs_value]
    exact canonical.lt_iff.2 most
  exact round?_of_isBinary ⟨_, _, bits, canonical.least, rfl⟩ range

/-- **A rounded float has the number nearest to the one represented, or is an
infinity.** -/
theorem valueOf?_pack_round {s : Sign} {m : ℕ} {e : ℤ} {acc : Accuracy} {x : ℚ}
    (represents : Represents (.ofMantissaAndAccuracy m acc) x) (positive : 0 < x)
    (coarse : e ≤ unitExponent (x * 2 ^ e)) :
    valueOf? (Model.pack (roundWithAccuracy binary64 s m e acc)).unpack
      = round? (signed s (x * 2 ^ e)) := by
  obtain ⟨k, f, canonical, near, rounded⟩ := roundWithAccuracy_cases represents positive coarse
  unfold round?
  rw [rounded, nearest_signed, near, abs_signed]
  by_cases zero : k = 0
  · rw [dif_pos zero, unpack_pack (u := .zero s) trivial]
    subst zero
    rw [Nat.cast_zero, zero_mul, abs_zero, if_pos (by norm_num)]
    cases s <;> simp [valueOf?, signed]
  · rw [dif_neg zero, abs_of_nonneg (units_nonneg k f)]
    by_cases small : f ≤ 971
    · rw [unpack_pack (u := .finite s k f _) ⟨canonical, small⟩,
        if_pos (canonical.lt_iff.2 small)]
      rfl
    · rw [unpack_pack_of_large canonical.bits (by omega),
        if_neg (mt canonical.lt_iff.1 small)]
      rfl

end Recordwise.Binary64
