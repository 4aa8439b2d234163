/-
  Recordwise.Proofs.Decimal.Encoding
  ──────────────────────────────────
  **The number that a float's 64 bits encode.**

  The bits hold a sign, an exponent field of eleven bits and a fraction field
  of 52.  The logical model of `Float` takes them apart, computes, and packs
  the result again; `Dyadic.ofFloat?` reads the number off the bits.  This
  module joins the two: what is packed and taken apart again is unchanged as
  far as it fits, and the numbers on both sides are the same.  Main
  statements:

      toRat?_eq             — the number of the bits is that of their fields
      unpack_pack           — packing loses nothing of what fits
      unpack_pack_of_large  — what is too large becomes an infinity
      eq_of_size_eq         — a size has one mantissa and exponent
-/
import Mathlib
import Recordwise.Decimal.Dyadic
import Recordwise.Proofs.Decimal.Nearest

namespace Recordwise

/-- The number that a dyadic denotes. -/
def Decimal.Dyadic.value (d : Decimal.Dyadic) : ℚ := d.signed d.mantissa * 2 ^ d.exponent

namespace Binary64

open Float (Model)
open Float.Model (UnpackedFloat)
open Float.Model.Format (binary64)
open Float.Model.UnpackedFloat (Sign unpackMantissa unpackExponent unpackSign packComponents
  packedInfinity unpackMantissa_packComponents unpackExponent_packComponents unpackMantissa_def
  unpackExponent_def unpackSign_def unpackSign_packComponents)

/-- The number of a float; NaN and the infinities have none. -/
def toRat? (x : Float) : Option ℚ := (Decimal.Dyadic.ofFloat? x).map Decimal.Dyadic.value

/-! ## §1. Fields. -/

/-- A size with a sign. -/
def signed (s : Sign) (q : ℚ) : ℚ :=
  match s with
  | .negative => -q
  | .positive => q

/-- The number of a float whose fields are apart. -/
def valueOf? : UnpackedFloat → Option ℚ
  | .notANumber => none
  | .infinity _ => none
  | .zero _ => some 0
  | .finite s m e _ => some (signed s (m * 2 ^ e))

/-- Whether a mantissa and an exponent are those that a number is packed
with. -/
structure IsCanonical (m : ℕ) (e : ℤ) : Prop where
  /-- There are 53 bits at most. -/
  bits : m < 2 ^ 53
  /-- No unit is below the least. -/
  least : -1074 ≤ e
  /-- Only the least unit goes with fewer bits. -/
  full : 2 ^ 52 ≤ m ∨ e = -1074

/-- Whether 64 bits hold a float. -/
def IsPacked : UnpackedFloat → Prop
  | .finite _ m e _ => IsCanonical m e ∧ e ≤ 971
  | _ => True

/-- The float of a sign, an exponent field and a fraction field. -/
def ofFields (s : Sign) (field fraction : ℕ) : UnpackedFloat :=
  if field = 2047 then
    if fraction = 0 then .infinity s else .notANumber
  else if field = 0 then
    if h : fraction = 0 then .zero s else .finite s fraction (-1074) (Nat.pos_of_ne_zero h)
  else .finite s (2 ^ 52 + fraction) (field - 1075) (by omega)

theorem isPacked_ofFields (s : Sign) {field fraction : ℕ} (small : field < 2 ^ 11)
    (short : fraction < 2 ^ 52) : IsPacked (ofFields s field fraction) := by
  unfold ofFields
  split
  · split <;> trivial
  · split
    · split
      · trivial
      · exact ⟨⟨by omega, by omega, by omega⟩, by omega⟩
    · exact ⟨⟨by omega, by omega, by omega⟩, by omega⟩

/-- A dyadic is a size with a sign. -/
theorem value_eq (d : Decimal.Dyadic) :
    d.value
      = signed (if d.negative then .negative else .positive) (d.mantissa * 2 ^ d.exponent) := by
  obtain ⟨negative, m, e⟩ := d
  cases negative with
  | true =>
      show ((-(m : ℤ) : ℤ) : ℚ) * 2 ^ e = -(m * 2 ^ e)
      push_cast
      ring
  | false => rfl

theorem valueOf?_ofFields (negative : Bool) (field fraction : ℕ) :
    valueOf? (ofFields (if negative then .negative else .positive) field fraction)
      = if field = 2047 then none
        else if field = 0 then some (Decimal.Dyadic.value ⟨negative, fraction, -1074⟩)
        else some (Decimal.Dyadic.value ⟨negative, 2 ^ 52 + fraction, field - 1075⟩) := by
  rw [value_eq, value_eq]
  unfold ofFields
  split
  · split <;> rfl
  · split
    · split
      · rename_i zero
        rw [zero, Nat.cast_zero, zero_mul]
        cases negative <;> simp [valueOf?, signed]
      · rfl
    · rfl

/-! ## §2. Taking bits apart. -/

theorem toNat_unpackMantissa (b : BitVec 64) :
    (@unpackMantissa binary64 b).toNat = b.toNat % 2 ^ 52 := by
  rw [unpackMantissa_def, BitVec.extractLsb'_toNat, Nat.shiftRight_zero]

theorem toNat_unpackExponent (b : BitVec 64) :
    (@unpackExponent binary64 b).toNat = b.toNat / 2 ^ 52 % 2 ^ 11 := by
  rw [unpackExponent_def, BitVec.extractLsb'_toNat, Nat.shiftRight_eq_div_pow]

theorem toNat_unpackSign (b : BitVec 64) :
    (@unpackSign binary64 b).toNat = b.toNat / 2 ^ 63 := by
  have bound : b.toNat < 2 ^ 64 := b.isLt
  rw [unpackSign_def, BitVec.extractLsb'_toNat, Nat.shiftRight_eq_div_pow]
  show b.toNat / 2 ^ 63 % 2 ^ 1 = _
  omega

theorem sign_ofBitVec (b : BitVec 1) :
    Sign.ofBitVec b = if b.toNat == 1 then .negative else .positive := by
  have bit : b.toNat = 0 ∨ b.toNat = 1 := by
    have := b.isLt
    omega
  unfold Sign.ofBitVec
  rcases bit with zero | one
  · rw [if_pos (BitVec.eq_of_toNat_eq zero), zero]
    rfl
  · have other : b ≠ 0#1 := fun h => by simp [h] at one
    rw [if_neg other, one]
    rfl

theorem eq_neg_one_iff (e : BitVec 11) : e = -1#11 ↔ e.toNat = 2047 := BitVec.toNat_inj.symm

theorem eq_zero_iff {w : ℕ} (e : BitVec w) : e = 0#w ↔ e.toNat = 0 := BitVec.toNat_inj.symm

theorem toNat_leading (m : BitVec 52) : (1#1 ++ m).toNat = 2 ^ 52 + m.toNat := by
  rw [BitVec.toNat_append, ← Nat.shiftLeft_add_eq_or_of_lt m.isLt]
  rfl

theorem unpack_eq (b : BitVec 64) :
    UnpackedFloat.unpack binary64 b
      = ofFields (Sign.ofBitVec (@unpackSign binary64 b)) (@unpackExponent binary64 b).toNat
          (@unpackMantissa binary64 b).toNat := by
  have bias : ((binary64.exponentBias : ℕ) : ℤ) + ((52 : ℕ) : ℤ) = 1075 := rfl
  unfold UnpackedFloat.unpack ofFields
  simp only [eq_neg_one_iff, eq_zero_iff, toNat_leading, bias]
  split
  · rfl
  · split
    · rename_i least
      rw [least]
      rfl
    · rfl

/-- What 64 bits hold is packed. -/
theorem isPacked_unpack (x : Model) : IsPacked x.unpack := by
  show IsPacked (UnpackedFloat.unpack binary64 x.toBits.toBitVec)
  rw [unpack_eq]
  exact isPacked_ofFields _ (BitVec.isLt _) (BitVec.isLt _)

/-- **The number of the bits is that of their fields.** -/
theorem toRat?_eq (x : Float) : toRat? x = valueOf? x.toModel.unpack := by
  show _ = valueOf? (UnpackedFloat.unpack binary64 x.toModel.toBits.toBitVec)
  rw [unpack_eq, sign_ofBitVec, valueOf?_ofFields, toNat_unpackExponent, toNat_unpackMantissa,
    toNat_unpackSign]
  have bits : x.toBits.toNat = x.toModel.toBits.toBitVec.toNat := rfl
  unfold toRat? Decimal.Dyadic.ofFloat?
  simp only [bits, Nat.pow_eq, beq_iff_eq]
  split
  · rfl
  · split <;> rfl

/-! ## §3. Packing. -/

theorem unpack_packComponents (s : Sign) (e : BitVec 11) (m : BitVec 52) :
    UnpackedFloat.unpack binary64 (packComponents binary64 s e m)
      = ofFields s e.toNat m.toNat := by
  rw [unpack_eq, unpackSign_packComponents, Sign.ofBitVec_toBitVec,
    unpackExponent_packComponents, unpackMantissa_packComponents]

theorem pack_finite (s : Sign) (m : ℕ) (e : ℤ) (pos : 0 < m) (bits : m < 2 ^ 53) :
    UnpackedFloat.pack binary64 (.finite s m e pos)
      = if 972 ≤ e then packedInfinity binary64 s
        else if 2 ^ 52 ≤ m then
          packComponents binary64 s (BitVec.ofNat 11 (e + 1075).toNat) (BitVec.ofNat 52 m)
        else packComponents binary64 s 0#11 (BitVec.ofNat 52 m) := by
  have biased : (e + (binary64.exponentBias : ℕ) + (52 : ℕ)).toNat = (e + 1075).toNat := by
    rw [show ((binary64.exponentBias : ℕ) : ℤ) = 1023 from rfl]
    congr 1
    omega
  have large : 2 ^ 11 ≤ (e + 1075).toNat + 1 ↔ 972 ≤ e := by omega
  have leading : m.log2 + 1 = binary64.mantissaBits ↔ 2 ^ 52 ≤ m := by
    show m.log2 + 1 = 53 ↔ _
    have most := (Nat.log2_lt pos.ne').2 bits
    rw [← Nat.le_log2 pos.ne']
    omega
  show (if 2 ^ 11 ≤ (e + (binary64.exponentBias : ℕ) + (52 : ℕ)).toNat + 1 then _
    else if m.log2 + 1 = binary64.mantissaBits then _ else _) = _
  simp only [biased, large, leading]

/-- **Packing loses nothing of what fits.** -/
theorem unpack_pack {u : UnpackedFloat} (h : IsPacked u) : (Model.pack u).unpack = u := by
  show UnpackedFloat.unpack binary64 (UnpackedFloat.pack binary64 u) = u
  cases u with
  | notANumber => rfl
  | infinity s => cases s <;> rfl
  | zero s => cases s <;> rfl
  | finite s m e pos =>
      obtain ⟨⟨bits, least, full⟩, most⟩ := h
      rw [pack_finite s m e pos bits, if_neg (by omega)]
      by_cases normal : 2 ^ 52 ≤ m
      · have field : (BitVec.ofNat 11 (e + 1075).toNat).toNat = (e + 1075).toNat :=
          Nat.mod_eq_of_lt (by omega)
        -- the leading bit is not stored
        have fraction : (BitVec.ofNat 52 m).toNat = m - 2 ^ 52 := by
          rw [BitVec.toNat_ofNat]
          omega
        have whole : 2 ^ 52 + (m - 2 ^ 52) = m := by omega
        have unit : ((e + 1075).toNat : ℤ) - 1075 = e := by omega
        rw [if_pos normal, unpack_packComponents, field, fraction]
        unfold ofFields
        rw [if_neg (by omega), if_neg (by omega)]
        simp only [whole, unit]
      · -- the field zero stands for the least unit without a leading bit
        have fraction : (BitVec.ofNat 52 m).toNat = m := Nat.mod_eq_of_lt (by omega)
        rw [if_neg normal, unpack_packComponents, fraction]
        unfold ofFields
        rw [if_neg (by decide), if_pos (by decide), dif_neg (by omega)]
        rw [full.resolve_left normal]

/-- What is too large is packed as an infinity. -/
theorem unpack_pack_of_large {s : Sign} {m : ℕ} {e : ℤ} {pos : 0 < m} (bits : m < 2 ^ 53)
    (large : 971 < e) : (Model.pack (.finite s m e pos)).unpack = .infinity s := by
  show UnpackedFloat.unpack binary64 (UnpackedFloat.pack binary64 _) = _
  rw [pack_finite s m e pos bits, if_pos (by omega)]
  cases s <;> rfl

/-! ## §4. Canonical numbers. -/

/-- The sizes of two canonical numbers compare by their exponents first. -/
theorem lt_of_exponent_lt {m n : ℕ} {e f : ℤ} (hm : IsCanonical m e) (hn : IsCanonical n f)
    (h : e < f) : (m : ℚ) * 2 ^ e < n * 2 ^ f := by
  -- the greater exponent is not the least, and goes with all bits
  have full : 2 ^ 52 ≤ n := by
    have := hn.full
    have := hm.least
    omega
  have next : (2 : ℚ) ^ (e + 1) = 2 * 2 ^ e := by
    rw [two_zpow_add, zpow_one]
    ring
  have bits : (m : ℚ) < 2 ^ 53 := by exact_mod_cast hm.bits
  have leading : (2 : ℚ) ^ 52 ≤ n := by exact_mod_cast full
  calc (m : ℚ) * 2 ^ e < 2 ^ 53 * 2 ^ e := mul_lt_mul_of_pos_right bits (two_zpow_pos e)
    _ = 2 ^ 52 * 2 ^ (e + 1) := by rw [next]; ring
    _ ≤ 2 ^ 52 * 2 ^ f := mul_le_mul_of_nonneg_left (two_zpow_le (by omega)) (by norm_num)
    _ ≤ n * 2 ^ f := mul_le_mul_of_nonneg_right leading (two_zpow_pos f).le

/-- Two canonical numbers of the same size are the same. -/
theorem eq_of_size_eq {m n : ℕ} {e f : ℤ} (hm : IsCanonical m e) (hn : IsCanonical n f)
    (same : (m : ℚ) * 2 ^ e = n * 2 ^ f) : m = n ∧ e = f := by
  have unit : e = f := by
    rcases lt_trichotomy e f with below | level | above
    · exact absurd same (lt_of_exponent_lt hm hn below).ne
    · exact level
    · exact absurd same (lt_of_exponent_lt hn hm above).ne'
  rw [unit] at same
  have mantissa : (m : ℚ) = n := mul_right_cancel₀ (two_zpow_pos f).ne' same
  exact ⟨by exact_mod_cast mantissa, unit⟩

/-- The dyadic of a float is canonical, and in the range. -/
theorem isCanonical_of_ofFloat? {x : Float} {d : Decimal.Dyadic}
    (h : Decimal.Dyadic.ofFloat? x = some d) :
    IsCanonical d.mantissa d.exponent ∧ d.exponent ≤ 971 := by
  unfold Decimal.Dyadic.ofFloat? at h
  simp only [Nat.pow_eq, beq_iff_eq] at h
  split at h
  · cases h
  · split at h
    · cases h
      exact ⟨⟨by dsimp only; omega, by dsimp only; omega, Or.inr rfl⟩, by dsimp only; omega⟩
    · cases h
      exact ⟨⟨by dsimp only; omega, by dsimp only; omega, Or.inl (by dsimp only; omega)⟩,
        by dsimp only; omega⟩

@[simp] theorem abs_signed (s : Sign) (q : ℚ) : |signed s q| = |q| := by
  cases s with
  | negative => exact abs_neg q
  | positive => rfl

/-- The size of a dyadic, its sign apart. -/
theorem abs_value (d : Decimal.Dyadic) : |d.value| = d.mantissa * 2 ^ d.exponent := by
  rw [value_eq, abs_signed, abs_of_nonneg (units_nonneg _ _)]

end Binary64

end Recordwise
