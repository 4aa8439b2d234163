/-
  Recordwise.Proofs.Decimal.Arithmetic
  ────────────────────────────────────
  **Arithmetic on floats is exact arithmetic, rounded once.**

  The product and the quotient of two finite floats are each the binary64
  number nearest to the exact result; a result that is too large is an
  infinity.  Signs change nothing but the sign, and floats compare as their
  numbers do.  Main statements:

      toRat?_mul, toRat?_div  — one rounding of the exact result
      eq_of_toRat?            — a number other than zero has one float
      compare_unpack          — finite floats compare as their numbers do
      valueOf?_round          — one rounding of a mantissa of any length
-/
import Recordwise.Proofs.Decimal.Rounding

namespace Recordwise.Binary64

open Float (Model)
open Float.Model (UnpackedFloat totalExponent)
open Float.Model.Format (binary64)
open Float.Model.UnpackedFloat (Sign ExtendedMantissa Accuracy roundWithAccuracy
  accuracyOfFraction divCore decreaseExponent)

/-! ## §1. Signs, units and fields. -/

theorem signed_mul (s t : Sign) (p q : ℚ) : signed (s * t) (p * q) = signed s p * signed t q := by
  cases s with
  | negative =>
      cases t with
      | negative => exact (neg_mul_neg p q).symm
      | positive => exact (neg_mul p q).symm
  | positive =>
      cases t with
      | negative => exact (mul_neg p q).symm
      | positive => rfl

theorem signed_div (s t : Sign) (p q : ℚ) : signed (s / t) (p / q) = signed s p / signed t q := by
  cases s with
  | negative =>
      cases t with
      | negative => exact (neg_div_neg_eq p q).symm
      | positive => exact (neg_div q p).symm
  | positive =>
      cases t with
      | negative => exact (div_neg p).symm
      | positive => rfl

theorem signed_neg (s : Sign) (q : ℚ) : signed (-s) q = -signed s q := by
  cases s with
  | negative => exact (neg_neg q).symm
  | positive => rfl

/-- The unit of a number is not far below its leading bit. -/
theorem le_unitExponent_of_le {q : ℚ} {k : ℤ} (h : 2 ^ k ≤ |q|) : k - 52 ≤ unitExponent q := by
  have positive : 0 < |q| := lt_of_lt_of_le (two_zpow_pos k) h
  have log : k ≤ Int.log 2 |q| :=
    (Int.zpow_le_iff_le_log (by norm_num) positive).1 (by exact_mod_cast h)
  unfold unitExponent
  omega

/-- A mantissa of 53 bits or the least unit is not too coarse to round. -/
theorem le_unitExponent_of_full {m : ℕ} {e : ℤ} (h : 2 ^ 52 ≤ m ∨ e ≤ -1074) :
    e ≤ unitExponent ((m : ℚ) * 2 ^ e) := by
  rcases h with full | least
  · have leading : (2 : ℚ) ^ (52 : ℤ) ≤ m := by exact_mod_cast full
    have size : (2 : ℚ) ^ (52 + e) ≤ |(m : ℚ) * 2 ^ e| := by
      rw [two_zpow_add, abs_of_nonneg (units_nonneg m e)]
      exact mul_le_mul_of_nonneg_right leading (two_zpow_pos e).le
    have unit := le_unitExponent_of_le size
    omega
  · exact least.trans (le_unitExponent _)

/-- The fields of a finite float: it is a zero or canonical. -/
theorem fields_of_toRat? {x : Float} {q : ℚ} (h : toRat? x = some q) :
    (∃ s, x.toModel.unpack = .zero s ∧ q = 0)
      ∨ ∃ s m e pos, x.toModel.unpack = .finite s m e pos ∧ IsCanonical m e
          ∧ q = signed s (m * 2 ^ e) := by
  have packed := isPacked_unpack x.toModel
  rw [toRat?_eq] at h
  cases u : x.toModel.unpack with
  | notANumber => simp [u, valueOf?] at h
  | infinity s => simp [u, valueOf?] at h
  | zero s =>
      rw [u] at h
      exact Or.inl ⟨s, rfl, (Option.some.inj h).symm⟩
  | finite s m e pos =>
      rw [u] at h packed
      exact Or.inr ⟨s, m, e, pos, rfl, packed.1, (Option.some.inj h).symm⟩

/-- A size other than zero tells its sign. -/
theorem sign_eq_of_signed_eq {s t : Sign} {p q : ℚ} (hp : 0 < p) (hq : 0 < q)
    (h : signed s p = signed t q) : s = t := by
  cases s with
  | negative =>
      cases t with
      | negative => rfl
      | positive => exact absurd (h.symm.trans_lt (neg_neg_of_pos hp)) hq.not_gt
  | positive =>
      cases t with
      | negative => exact absurd (h.trans_lt (neg_neg_of_pos hq)) hp.not_gt
      | positive => rfl

/-- **A number other than zero has one float.** -/
theorem eq_of_toRat? {x y : Float} {q : ℚ} (nonzero : q ≠ 0) (hx : toRat? x = some q)
    (hy : toRat? y = some q) : x = y := by
  rcases fields_of_toRat? hx with ⟨-, -, zero⟩ | ⟨s, m, e, hm, ux, canonical, rfl⟩
  · exact absurd zero nonzero
  rcases fields_of_toRat? hy with ⟨-, -, zero⟩ | ⟨t, n, f, hn, uy, canonical', same⟩
  · exact absurd zero nonzero
  -- the number tells its sign, and its size the other fields
  obtain rfl := sign_eq_of_signed_eq (units_pos hm e) (units_pos hn f) same
  have size : (m : ℚ) * 2 ^ e = n * 2 ^ f := by
    have size := congrArg abs same
    rwa [abs_signed, abs_signed, abs_of_pos (units_pos hm e), abs_of_pos (units_pos hn f)] at size
  obtain ⟨rfl, rfl⟩ := eq_of_size_eq canonical canonical' size
  exact Float.toBits_inj.1 (UInt64.toBitVec_inj.1
    ((UnpackedFloat.unpack_inj_of_valid x.toModel.valid y.toModel.valid).1 (ux.trans uy.symm)))

theorem valueOf?_pack_zero (s : Sign) : valueOf? (Model.pack (.zero s)).unpack = round? 0 := by
  rw [unpack_pack (u := .zero s) trivial, round?_zero]
  rfl

/-! ## §2. Products. -/

theorem valueOf?_mul (s t : Sign) {m n : ℕ} {e f : ℤ} (hm : 0 < m) (hn : 0 < n)
    (coarse : 2 ^ 52 ≤ m * n ∨ e + f ≤ -1074) :
    valueOf? (Model.pack (.mul binary64 (.finite s m e hm) (.finite t n f hn))).unpack
      = round? (signed s (m * 2 ^ e) * signed t (n * 2 ^ f)) := by
  have exact : (m : ℚ) * 2 ^ e * (n * 2 ^ f) = ((m * n : ℕ) : ℚ) * 2 ^ (e + f) := by
    rw [two_zpow_add]
    push_cast
    ring
  rw [← signed_mul, exact]
  exact valueOf?_pack_round (.exact _) (by exact_mod_cast Nat.mul_pos hm hn)
    (le_unitExponent_of_full coarse)

/-- **A product is rounded once.** -/
theorem toRat?_mul {x y : Float} {p q : ℚ} (hx : toRat? x = some p) (hy : toRat? y = some q) :
    toRat? (x * y) = round? (p * q) := by
  rw [toRat?_eq]
  show valueOf? (Model.pack (.mul binary64 x.toModel.unpack y.toModel.unpack)).unpack = _
  rcases fields_of_toRat? hx with ⟨s, ux, zero⟩ | ⟨s, m, e, hm, ux, canonical, rfl⟩
  · rw [zero, zero_mul, ux]
    rcases fields_of_toRat? hy with ⟨t, uy, -⟩ | ⟨t, n, f, hn, uy, -, -⟩
    · rw [uy]
      exact valueOf?_pack_zero (s * t)
    · rw [uy]
      exact valueOf?_pack_zero (s * t)
  · rcases fields_of_toRat? hy with ⟨t, uy, zero⟩ | ⟨t, n, f, hn, uy, canonical', rfl⟩
    · rw [zero, mul_zero, ux, uy]
      exact valueOf?_pack_zero (s * t)
    · -- one mantissa of 53 bits makes the product as long; without any both units are the least
      have coarse : 2 ^ 52 ≤ m * n ∨ e + f ≤ -1074 := by
        rcases canonical.full with full | least
        · exact Or.inl (full.trans (Nat.le_mul_of_pos_right m hn))
        · rcases canonical'.full with full | least'
          · exact Or.inl (full.trans (Nat.le_mul_of_pos_left n hm))
          · omega
      rw [ux, uy, valueOf?_mul s t hm hn coarse]

/-! ## §3. Quotients. -/

/-- A quotient and what is left over represent the exact quotient. -/
theorem represents_div (a : ℕ) {b : ℕ} (pos : 0 < b) :
    Represents (.ofMantissaAndAccuracy (a / b) (accuracyOfFraction (a % b) b)) ((a : ℚ) / b) := by
  have positive : (0 : ℚ) < b := by exact_mod_cast pos
  have less : ((a % b : ℕ) : ℚ) < b := by exact_mod_cast Nat.mod_lt a pos
  have split : (b : ℚ) * (a / b : ℕ) + (a % b : ℕ) = a := by exact_mod_cast Nat.div_add_mod a b
  have rest : (a : ℚ) / b = (a / b : ℕ) + ((a % b : ℕ) : ℚ) / b := by
    rw [← split, add_div, mul_div_cancel_left₀ _ positive.ne']
  have twice : 2 * (((a % b : ℕ) : ℚ) / b) = (2 * (a % b) : ℕ) / b := by
    push_cast
    ring
  unfold accuracyOfFraction
  rw [rest]
  by_cases zero : a % b = 0
  · rw [if_pos zero, zero, Nat.cast_zero, zero_div, add_zero]
    exact .exact _
  · have more : (0 : ℚ) < ((a % b : ℕ) : ℚ) / b :=
      div_pos (by exact_mod_cast Nat.pos_of_ne_zero zero) positive
    have part : ((a % b : ℕ) : ℚ) / b < 1 := (div_lt_one positive).2 less
    rw [if_neg zero]
    rcases lt_trichotomy (2 * (a % b)) b with below | middle | above
    · have half : ((2 * (a % b) : ℕ) : ℚ) / b < 1 := by
        rw [div_lt_one positive]
        exact_mod_cast below
      rw [compare_lt_iff_lt.2 below]
      exact .low (by linarith) (by linarith)
    · have half : ((2 * (a % b) : ℕ) : ℚ) / b = 1 := by
        rw [middle, div_self positive.ne']
      have tie : ((a % b : ℕ) : ℚ) / b = 1 / 2 := by linarith
      rw [compare_eq_iff_eq.2 middle, tie]
      exact .half _
    · have half : 1 < ((2 * (a % b) : ℕ) : ℚ) / b := by
        rw [one_lt_div positive]
        exact_mod_cast above
      rw [compare_gt_iff_gt.2 above]
      exact .high (by linarith) (by linarith)

/-- A mantissa is between two powers of two. -/
theorem two_zpow_log2_le {m : ℕ} (pos : 0 < m) :
    (2 : ℚ) ^ (m.log2 : ℤ) ≤ m ∧ (m : ℚ) < 2 ^ ((m.log2 : ℤ) + 1) := by
  have low : 2 ^ m.log2 ≤ m := (Nat.le_log2 pos.ne').1 le_rfl
  have high : m < 2 ^ (m.log2 + 1) := (Nat.log2_lt pos.ne').1 (Nat.lt_succ_self _)
  constructor
  · exact_mod_cast low
  · exact_mod_cast high

/-- The leading bit of a quotient is where those of its parts put it. -/
theorem two_zpow_le_div {m n : ℕ} (hm : 0 < m) (hn : 0 < n) (e f : ℤ) :
    (2 : ℚ) ^ ((m.log2 : ℤ) + e - ((n.log2 : ℤ) + 1 + f)) ≤ m * 2 ^ e / (n * 2 ^ f) := by
  have low := (two_zpow_log2_le hm).1
  have high := (two_zpow_log2_le hn).2
  rw [zpow_sub₀ (by norm_num), two_zpow_add, two_zpow_add _ f]
  exact div_le_div₀ (units_nonneg m e) (mul_le_mul_of_nonneg_right low (two_zpow_pos e).le)
    (units_pos hn f) (mul_le_mul_of_nonneg_right high.le (two_zpow_pos f).le)

theorem valueOf?_div (s t : Sign) {m n : ℕ} {e f : ℤ} (hm : 0 < m) (hn : 0 < n) :
    valueOf? (Model.pack (.div binary64 (.finite s m e hm) (.finite t n f hn))).unpack
      = round? (signed s (m * 2 ^ e) / signed t (n * 2 ^ f)) := by
  have target : binary64.targetExponent (totalExponent m e - totalExponent n f)
      = max ((m.log2 : ℤ) + 1 + e - ((n.log2 : ℤ) + 1 + f) - 53) (-1074) := rfl
  -- the dividend is shifted until the quotient has bits enough
  generalize hu : min (e - f) (binary64.targetExponent (totalExponent m e - totalExponent n f))
    = u
  obtain ⟨k, hk⟩ : ∃ k : ℕ, e = k + u + f := ⟨(e - f - u).toNat, by omega⟩
  have shift : (e - f - u).toNat = k := by omega
  have exact : (m : ℚ) * 2 ^ e / (n * 2 ^ f) = ((m <<< k : ℕ) : ℚ) / n * 2 ^ u := by
    have unit := (two_zpow_pos f).ne'
    rw [Nat.shiftLeft_eq, hk, two_zpow_add, two_zpow_add, zpow_natCast]
    push_cast
    field_simp
  have size : 0 < m <<< k := by
    rw [Nat.shiftLeft_eq]
    positivity
  have positive : (0 : ℚ) < (m <<< k : ℕ) / (n : ℚ) := by positivity
  have coarse : u ≤ unitExponent (((m <<< k : ℕ) : ℚ) / n * 2 ^ u) := by
    have leading := (two_zpow_le_div hm hn e f).trans (le_abs_self _)
    have unit := le_unitExponent_of_le leading
    have least := le_unitExponent ((m : ℚ) * 2 ^ e / (n * 2 ^ f))
    rw [← exact]
    omega
  rw [← signed_div, exact, ← valueOf?_pack_round (represents_div _ hn) positive coarse, ← hu]
  show valueOf? (Model.pack (roundWithAccuracy binary64 (s / t)
      (m <<< (e - f - min (e - f) (binary64.targetExponent _)).toNat / n) _ _)).unpack = _
  rw [hu, shift]

/-- **A quotient is rounded once.** -/
theorem toRat?_div {x y : Float} {p q : ℚ} (hx : toRat? x = some p) (hy : toRat? y = some q)
    (nonzero : q ≠ 0) : toRat? (x / y) = round? (p / q) := by
  rw [toRat?_eq]
  show valueOf? (Model.pack (.div binary64 x.toModel.unpack y.toModel.unpack)).unpack = _
  rcases fields_of_toRat? hy with ⟨t, uy, zero⟩ | ⟨t, n, f, hn, uy, -, rfl⟩
  · exact absurd zero nonzero
  · rcases fields_of_toRat? hx with ⟨s, ux, zero⟩ | ⟨s, m, e, hm, ux, -, rfl⟩
    · rw [zero, zero_div, ux, uy]
      exact valueOf?_pack_zero (s / t)
    · rw [ux, uy, valueOf?_div s t hm hn]

/-! ## §4. Signs. -/

theorem isPacked_neg {u : UnpackedFloat} (h : IsPacked u) : IsPacked u.neg := by
  cases u <;> exact h

theorem valueOf?_neg (u : UnpackedFloat) : valueOf? u.neg = (valueOf? u).map (-·) := by
  cases u with
  | notANumber => rfl
  | infinity s => rfl
  | zero s => simp [UnpackedFloat.neg, valueOf?]
  | finite s m e pos => exact congrArg some (signed_neg s _)

theorem toRat?_neg (x : Float) : toRat? (-x) = (toRat? x).map (-·) := by
  rw [toRat?_eq, toRat?_eq]
  show valueOf? (Model.pack x.toModel.unpack.neg).unpack = _
  rw [unpack_pack (isPacked_neg (isPacked_unpack _)), valueOf?_neg]

theorem isPacked_abs {u : UnpackedFloat} (h : IsPacked u) : IsPacked u.abs := by
  cases u <;> exact h

theorem valueOf?_abs (u : UnpackedFloat) : valueOf? u.abs = (valueOf? u).map (|·|) := by
  cases u with
  | notANumber => rfl
  | infinity s => rfl
  | zero s => simp [UnpackedFloat.abs, valueOf?]
  | finite s m e pos =>
      show some ((m : ℚ) * 2 ^ e) = some |signed s (m * 2 ^ e)|
      rw [abs_signed, abs_of_nonneg (units_nonneg m e)]

theorem toRat?_abs (x : Float) : toRat? x.abs = (toRat? x).map (|·|) := by
  rw [toRat?_eq, toRat?_eq]
  show valueOf? (Model.pack x.toModel.unpack.abs).unpack = _
  rw [unpack_pack (isPacked_abs (isPacked_unpack _)), valueOf?_abs]

/-! ## §5. Order. -/

/-- Sizes compare by their exponents, then by their mantissas. -/
theorem compare_size {m n : ℕ} {e f : ℤ} (hm : IsCanonical m e) (hn : IsCanonical n f) :
    (compare e f).then (compare m n) = compare ((m : ℚ) * 2 ^ e) (n * 2 ^ f) := by
  rcases lt_trichotomy e f with below | rfl | above
  · rw [compare_lt_iff_lt.2 below, compare_lt_iff_lt.2 (lt_of_exponent_lt hm hn below)]
    rfl
  · rw [compare_eq_iff_eq.2 rfl, ← cmp_eq_compare (_ * _), cmp_mul_pos_right (two_zpow_pos e),
      (Nat.strictMono_cast (α := ℚ)).cmp_map_eq, cmp_eq_compare]
    rfl
  · rw [compare_gt_iff_gt.2 above, compare_gt_iff_gt.2 (lt_of_exponent_lt hn hm above)]
    rfl

theorem swap_compare (p q : ℚ) : (compare p q).swap = compare (-p) (-q) := by
  have anti : StrictAnti fun r : ℚ => -r := fun _ _ => neg_lt_neg
  rw [← cmp_eq_compare, ← cmp_eq_compare, cmp_swap]
  exact (anti.cmp_map_eq p q).symm

/-- **Finite floats compare as their numbers do.** -/
theorem compare_unpack {x y : Float} {p q : ℚ} (hx : toRat? x = some p) (hy : toRat? y = some q) :
    x.toModel.unpack.compare y.toModel.unpack = some (compare p q) := by
  rcases fields_of_toRat? hx with ⟨s, ux, rfl⟩ | ⟨s, m, e, hm, ux, canonical, rfl⟩
  · rcases fields_of_toRat? hy with ⟨t, uy, rfl⟩ | ⟨t, n, f, hn, uy, canonical', rfl⟩
    · rw [ux, uy, compare_eq_iff_eq.2 rfl]
      rfl
    · have size := units_pos hn f
      rw [ux, uy]
      cases t with
      | negative => exact congrArg some (compare_gt_iff_gt.2 (neg_neg_of_pos size)).symm
      | positive => exact congrArg some (compare_lt_iff_lt.2 size).symm
  · have size := units_pos hm e
    rcases fields_of_toRat? hy with ⟨t, uy, rfl⟩ | ⟨t, n, f, hn, uy, canonical', rfl⟩
    · rw [ux, uy]
      cases s with
      | negative => exact congrArg some (compare_lt_iff_lt.2 (neg_neg_of_pos size)).symm
      | positive => exact congrArg some (compare_gt_iff_gt.2 size).symm
    · have size' := units_pos hn f
      have sizes := compare_size canonical canonical'
      rw [ux, uy]
      cases s with
      | negative =>
          cases t with
          | negative =>
              show some ((compare e f).then (compare m n)).swap = _
              rw [sizes, swap_compare]
              rfl
          | positive =>
              exact congrArg some (compare_lt_iff_lt.2 ((neg_neg_of_pos size).trans size')).symm
      | positive =>
          cases t with
          | negative =>
              exact congrArg some (compare_gt_iff_gt.2 ((neg_neg_of_pos size').trans size)).symm
          | positive => exact congrArg some sizes

/-- A finite float is below another one when its number is. -/
theorem lt_iff {x y : Float} {p q : ℚ} (hx : toRat? x = some p) (hy : toRat? y = some q) :
    x < y ↔ p < q := by
  show (decide ((x.toModel.unpack.compare y.toModel.unpack == some .lt) = true)) = true ↔ p < q
  rw [compare_unpack hx hy, decide_eq_true_eq, beq_iff_eq, Option.some.injEq, compare_lt_iff_lt]

/-- Two finite floats are the same number when they compare equal. -/
theorem beq_iff {x y : Float} {p q : ℚ} (hx : toRat? x = some p) (hy : toRat? y = some q) :
    (x == y) = true ↔ p = q := by
  show (x.toModel.unpack.compare y.toModel.unpack == some .eq) = true ↔ p = q
  rw [compare_unpack hx hy, beq_iff_eq, Option.some.injEq, compare_eq_iff_eq]

/-- A finite float is not NaN. -/
theorem isNaN_of_toRat? {x : Float} {q : ℚ} (h : toRat? x = some q) : x.isNaN = false := by
  show x.toModel.unpack.isNaN = false
  rcases fields_of_toRat? h with ⟨s, u, -⟩ | ⟨s, m, e, pos, u, -, -⟩
  · rw [u]
    rfl
  · rw [u]
    rfl

/-! ## §6. Mantissas of any length. -/

theorem valueOf?_round (s : Sign) {m : ℕ} (pos : 0 < m) (e : ℤ) :
    valueOf? (Model.pack (UnpackedFloat.round binary64 s m e)).unpack
      = round? (signed s (m * 2 ^ e)) := by
  have target : binary64.targetExponent (totalExponent m e) = unitExponent ((m : ℚ) * 2 ^ e) := by
    unfold unitExponent
    rw [targetExponent_eq, abs_of_pos (units_pos pos e),
      log_eq pos le_rfl (lt_add_one _)]
  -- the mantissa gets more bits when its unit is too coarse
  generalize hk : (e - unitExponent ((m : ℚ) * 2 ^ e)).toNat = k
  have same : ((m <<< k : ℕ) : ℚ) * 2 ^ (e - k) = m * 2 ^ e := by
    have split : (2 : ℚ) ^ e = 2 ^ k * 2 ^ (e - k) := by
      rw [← zpow_natCast, ← two_zpow_add]
      congr 1
      ring
    rw [Nat.shiftLeft_eq, split]
    push_cast
    ring
  have size : (0 : ℚ) < (m <<< k : ℕ) := by
    rw [Nat.shiftLeft_eq]
    positivity
  have coarse : e - k ≤ unitExponent (((m <<< k : ℕ) : ℚ) * 2 ^ (e - k)) := by
    rw [same]
    omega
  have exact : Represents (.ofMantissaAndAccuracy (m <<< k) .exact) (m <<< k : ℕ) := .exact _
  rw [← same, ← valueOf?_pack_round exact size coarse]
  show valueOf? (Model.pack (roundWithAccuracy binary64 s
      (m <<< (e - binary64.targetExponent (totalExponent m e)).toNat)
      (e - (e - binary64.targetExponent (totalExponent m e)).toNat) .exact)).unpack = _
  rw [target, hk]

end Recordwise.Binary64
