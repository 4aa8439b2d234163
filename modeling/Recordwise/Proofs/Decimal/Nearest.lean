/-
  Recordwise.Proofs.Decimal.Nearest
  ─────────────────────────────────
  **The binary64 number nearest to a rational number.**

  A binary64 number is an integer of 53 bits in units of a power of two, and
  no unit is below `2^(-1074)`.  Around a number the unit is fixed by its
  binary logarithm, so the nearest binary64 number is the nearest whole number
  of units, an even one when two are equally near.  The exponent has no upper
  bound here: where the numbers end is the business of `round?`.  Main
  statements:

      abs_halfEven_sub_le   — no integer is nearer than the one taken
      abs_nearest_sub_le    — no binary64 number is nearer than the one taken
      nearest_of_isBinary   — a binary64 number is its own nearest
      nearest_mono          — rounding keeps the order
      nearest_intCast       — an integer rounds to an integer
      round?_of_large       — a number that is too large has none
-/
import Mathlib.Algebra.Order.Round
import Mathlib.Data.Int.Log
import Mathlib.Data.Rat.Floor
import Mathlib.Tactic.Linarith
import Mathlib.Tactic.NormNum
import Mathlib.Tactic.Positivity
import Mathlib.Tactic.Ring

namespace Recordwise.Binary64

/-! ## §1. The nearest integer. -/

/-- The integer nearest to a number, the even one of two. -/
def halfEven (q : ℚ) : ℤ :=
  if q - ⌊q⌋ < 1 / 2 then ⌊q⌋
  else if 1 / 2 < q - ⌊q⌋ then ⌊q⌋ + 1
  else ⌊q⌋ + ⌊q⌋ % 2

@[simp] theorem halfEven_intCast (n : ℤ) : halfEven n = n := by
  simp [halfEven]

theorem halfEven_zero : halfEven 0 = 0 := halfEven_intCast 0

/-- The integer below a number or the one above it is taken. -/
theorem abs_halfEven_sub_self_le (q : ℚ) : |(halfEven q : ℚ) - q| ≤ 1 / 2 := by
  have low := Int.floor_le q
  have high := Int.lt_floor_add_one q
  have parity : ⌊q⌋ % 2 = 0 ∨ ⌊q⌋ % 2 = 1 := by omega
  unfold halfEven
  rw [abs_le]
  split
  · constructor <;> linarith
  · split
    · push_cast
      constructor <;> linarith
    · rcases parity with even | odd
      · rw [even]
        push_cast
        constructor <;> linarith
      · rw [odd]
        push_cast
        constructor <;> linarith

/-- **No integer is nearer than the one taken.** -/
theorem abs_halfEven_sub_le (q : ℚ) (n : ℤ) : |(halfEven q : ℚ) - q| ≤ |(n : ℚ) - q| := by
  by_cases same : halfEven q = n
  · rw [same]
  · -- another integer is one away at least, and so half of it from `q`
    have apart : (1 : ℤ) ≤ |halfEven q - n| := Int.one_le_abs (sub_ne_zero.2 same)
    have apart : (1 : ℚ) ≤ |(halfEven q : ℚ) - n| := by exact_mod_cast apart
    have near := abs_halfEven_sub_self_le q
    have triangle := abs_sub_le (halfEven q : ℚ) q n
    rw [abs_sub_comm q] at triangle
    linarith

/-- A number nearer than a half to an integer rounds to it. -/
theorem halfEven_eq_of_abs_lt {q : ℚ} {n : ℤ} (h : |q - n| < 1 / 2) : halfEven q = n := by
  by_contra other
  have apart : (1 : ℤ) ≤ |halfEven q - n| := Int.one_le_abs (sub_ne_zero.2 other)
  have apart : (1 : ℚ) ≤ |(halfEven q : ℚ) - n| := by exact_mod_cast apart
  have near := abs_halfEven_sub_self_le q
  have triangle := abs_sub_le (halfEven q : ℚ) q n
  linarith

/-- Of the two integers beside a half the even one is taken. -/
theorem halfEven_add_half (n : ℤ) : halfEven (n + 1 / 2) = n + n % 2 := by
  have floor : ⌊(n : ℚ) + 1 / 2⌋ = n := by
    rw [Int.floor_eq_iff]
    constructor <;> linarith
  have rest : (n : ℚ) + 1 / 2 - (n : ℚ) = 1 / 2 := by ring
  unfold halfEven
  rw [floor, rest, if_neg (lt_irrefl _), if_neg (lt_irrefl _)]

/-- An integer below a number stays below the integer nearest to it. -/
theorem le_halfEven {q : ℚ} {n : ℤ} (h : n ≤ q) : n ≤ halfEven q := by
  have near := abs_halfEven_sub_self_le q
  rw [abs_le] at near
  have above : (n : ℚ) < halfEven q + 1 := by linarith
  have above : n < halfEven q + 1 := by exact_mod_cast above
  omega

theorem halfEven_neg (q : ℚ) : halfEven (-q) = -halfEven q := by
  have split := Int.floor_add_fract q
  have low := Int.fract_nonneg q
  have high := Int.fract_lt_one q
  rcases lt_trichotomy (Int.fract q) (1 / 2) with below | half | above
  · have near : |q - ⌊q⌋| < 1 / 2 := by
      rw [abs_lt]
      constructor <;> linarith
    have near' : |-q - (-⌊q⌋ : ℤ)| < 1 / 2 := by
      rw [show -q - (-⌊q⌋ : ℤ) = -(q - ⌊q⌋) by push_cast; ring, abs_neg]
      exact near
    rw [halfEven_eq_of_abs_lt near, halfEven_eq_of_abs_lt near']
  · have here : q = (⌊q⌋ : ℚ) + 1 / 2 := by linarith
    have there : -q = ((-⌊q⌋ - 1 : ℤ) : ℚ) + 1 / 2 := by
      push_cast
      linarith
    rw [there, halfEven_add_half]
    conv_rhs => rw [here, halfEven_add_half]
    omega
  · have near : |q - (⌊q⌋ + 1 : ℤ)| < 1 / 2 := by
      push_cast
      rw [abs_lt]
      constructor <;> linarith
    have near' : |-q - (-(⌊q⌋ + 1) : ℤ)| < 1 / 2 := by
      rw [show -q - (-(⌊q⌋ + 1) : ℤ) = -(q - (⌊q⌋ + 1 : ℤ)) by push_cast; ring, abs_neg]
      exact near
    rw [halfEven_eq_of_abs_lt near, halfEven_eq_of_abs_lt near']

/-! ## §2. Units. -/

/-- The exponent of the unit of the binary64 numbers around a number. -/
def unitExponent (q : ℚ) : ℤ := max (Int.log 2 |q| - 52) (-1074)

/-- The binary64 number nearest to a number, that of an even number of units
when two are equally near. -/
def nearest (q : ℚ) : ℚ := halfEven (q / 2 ^ unitExponent q) * 2 ^ unitExponent q

/-- Whether a number is one of 53 bits in units of a power of two that is not
below the least. -/
def IsBinary (q : ℚ) : Prop := ∃ m e : ℤ, |m| < 2 ^ 53 ∧ -1074 ≤ e ∧ q = m * 2 ^ e

/-- The greatest finite numbers are below `2^1024`; what rounds to more is an
infinity, which is no number. -/
def round? (q : ℚ) : Option ℚ := if |nearest q| < 2 ^ 1024 then some (nearest q) else none

theorem two_zpow_pos (e : ℤ) : (0 : ℚ) < 2 ^ e := zpow_pos (by norm_num) e

/-- A whole number of units is a size. -/
theorem units_nonneg (m : ℕ) (e : ℤ) : (0 : ℚ) ≤ m * 2 ^ e :=
  mul_nonneg (Nat.cast_nonneg m) (two_zpow_pos e).le

theorem units_pos {m : ℕ} (h : 0 < m) (e : ℤ) : (0 : ℚ) < m * 2 ^ e :=
  mul_pos (Nat.cast_pos.2 h) (two_zpow_pos e)

theorem two_zpow_add (e f : ℤ) : (2 : ℚ) ^ (e + f) = 2 ^ e * 2 ^ f :=
  zpow_add₀ (by norm_num) e f

theorem two_zpow_le {e f : ℤ} (h : e ≤ f) : (2 : ℚ) ^ e ≤ 2 ^ f :=
  zpow_le_zpow_right₀ (by norm_num) h

/-- A power of two is a whole number of smaller ones. -/
theorem two_zpow_eq_mul {e f : ℤ} (h : e ≤ f) :
    (2 : ℚ) ^ f = ((2 ^ (f - e).toNat : ℕ) : ℚ) * 2 ^ e := by
  have whole : ((f - e).toNat : ℤ) = f - e := Int.toNat_of_nonneg (by omega)
  have power : ((2 ^ (f - e).toNat : ℕ) : ℚ) = 2 ^ (f - e) := by
    rw [← whole, zpow_natCast]
    push_cast
    rfl
  rw [power, ← two_zpow_add]
  congr 1
  omega

theorem le_unitExponent (q : ℚ) : -1074 ≤ unitExponent q := le_max_right _ _

theorem unitExponent_neg (q : ℚ) : unitExponent (-q) = unitExponent q := by
  unfold unitExponent
  rw [abs_neg]

theorem nearest_neg (q : ℚ) : nearest (-q) = -nearest q := by
  unfold nearest
  rw [unitExponent_neg, neg_div, halfEven_neg]
  push_cast
  ring

theorem nearest_zero : nearest 0 = 0 := by
  unfold nearest
  rw [zero_div, halfEven_zero]
  simp

/-- A number has 53 bits at most in front of its unit. -/
theorem abs_lt_unit (q : ℚ) : |q| < 2 ^ (53 : ℤ) * 2 ^ unitExponent q := by
  have log := Int.lt_zpow_succ_log_self (b := 2) (by norm_num) |q|
  have unit : Int.log 2 |q| + 1 ≤ 53 + unitExponent q := by
    unfold unitExponent
    omega
  rw [← two_zpow_add]
  exact log.trans_le (two_zpow_le unit)

/-- Above the least unit it has all of them. -/
theorem unit_le_abs {q : ℚ} (nonzero : q ≠ 0) (normal : -1074 < unitExponent q) :
    2 ^ (52 : ℤ) * 2 ^ unitExponent q ≤ |q| := by
  have log := Int.zpow_log_le_self (b := 2) (by norm_num) (abs_pos.2 nonzero)
  have unit : Int.log 2 |q| = 52 + unitExponent q := by
    unfold unitExponent at normal ⊢
    omega
  rw [← two_zpow_add, ← unit]
  exact log

/-! ## §3. What is nearest. -/

/-- No whole number of units is nearer. -/
theorem abs_nearest_sub_le_units (q : ℚ) (n : ℤ) :
    |nearest q - q| ≤ |(n : ℚ) * 2 ^ unitExponent q - q| := by
  have pos := two_zpow_pos (unitExponent q)
  have scale (k : ℤ) : |(k : ℚ) * 2 ^ unitExponent q - q|
      = |(k : ℚ) - q / 2 ^ unitExponent q| * 2 ^ unitExponent q := by
    rw [← abs_of_pos pos, ← abs_mul, abs_of_pos pos]
    congr 1
    field_simp
  have best := abs_halfEven_sub_le (q / 2 ^ unitExponent q) n
  unfold nearest
  rw [scale, scale]
  exact mul_le_mul_of_nonneg_right best pos.le

/-- **No binary64 number is nearer than the one taken.** -/
theorem abs_nearest_sub_le (q : ℚ) {r : ℚ} (binary : IsBinary r) :
    |nearest q - q| ≤ |r - q| := by
  obtain ⟨m, e, bits, least, rfl⟩ := binary
  by_cases zero : q = 0
  · rw [zero, nearest_zero, sub_zero, abs_zero]
    exact abs_nonneg _
  by_cases fine : unitExponent q ≤ e
  · -- the number is a whole number of units
    have whole : (m : ℚ) * 2 ^ e
        = ((m * (2 ^ (e - unitExponent q).toNat : ℕ) : ℤ) : ℚ) * 2 ^ unitExponent q := by
      rw [two_zpow_eq_mul fine]
      push_cast
      ring
    rw [whole]
    exact abs_nearest_sub_le_units q _
  · -- the number is below all those with the unit of `q`, and so is nearer to their least
    have above := unit_le_abs zero (by omega)
    have below : |(m : ℚ) * 2 ^ e| ≤ 2 ^ (52 : ℤ) * 2 ^ unitExponent q := by
      have bits : |(m : ℚ)| ≤ 2 ^ (53 : ℤ) := by exact_mod_cast bits.le
      rw [abs_mul, abs_of_pos (two_zpow_pos e)]
      calc |(m : ℚ)| * 2 ^ e ≤ 2 ^ (53 : ℤ) * 2 ^ e :=
            mul_le_mul_of_nonneg_right bits (two_zpow_pos e).le
        _ = 2 ^ (53 + e) := (two_zpow_add _ _).symm
        _ ≤ 2 ^ (52 + unitExponent q) := two_zpow_le (by omega)
        _ = 2 ^ (52 : ℤ) * 2 ^ unitExponent q := two_zpow_add _ _
    rw [abs_le] at below
    have power : ((2 ^ 52 : ℤ) : ℚ) = 2 ^ (52 : ℤ) := by norm_num
    rcases lt_or_gt_of_ne zero with negative | positive
    · have best := abs_nearest_sub_le_units q (-(2 ^ 52))
      rw [Int.cast_neg, power] at best
      rw [abs_of_neg negative] at above
      refine best.trans ?_
      rw [abs_of_nonneg (by linarith), abs_of_nonneg (by linarith)]
      linarith
    · have best := abs_nearest_sub_le_units q (2 ^ 52)
      rw [power] at best
      rw [abs_of_pos positive] at above
      refine best.trans ?_
      rw [abs_of_nonpos (by linarith), abs_of_nonpos (by linarith)]
      linarith

/-- There are 53 bits of units at most, or a carry into one more bit. -/
theorem abs_halfEven_units_le (q : ℚ) : |halfEven (q / 2 ^ unitExponent q)| ≤ 2 ^ 53 := by
  have pos := two_zpow_pos (unitExponent q)
  have size : |q / 2 ^ unitExponent q| < 2 ^ (53 : ℤ) := by
    rw [abs_div, abs_of_pos pos, div_lt_iff₀ pos]
    exact abs_lt_unit q
  have near := abs_halfEven_sub_self_le (q / 2 ^ unitExponent q)
  have power : (2 : ℚ) ^ (53 : ℤ) = 9007199254740992 := by norm_num
  rw [power, abs_lt] at size
  rw [abs_le] at near
  have low : (-9007199254740993 : ℚ) < halfEven (q / 2 ^ unitExponent q) := by linarith
  have high : (halfEven (q / 2 ^ unitExponent q) : ℚ) < 9007199254740993 := by linarith
  have low : -9007199254740993 < halfEven (q / 2 ^ unitExponent q) := by exact_mod_cast low
  have high : halfEven (q / 2 ^ unitExponent q) < 9007199254740993 := by exact_mod_cast high
  rw [abs_le]
  omega

/-- The number taken is a binary64 number. -/
theorem isBinary_nearest (q : ℚ) : IsBinary (nearest q) := by
  have bits := abs_halfEven_units_le q
  have least := le_unitExponent q
  by_cases full : |halfEven (q / 2 ^ unitExponent q)| < 2 ^ 53
  · exact ⟨_, _, full, least, rfl⟩
  · -- a carry into one more bit leaves half the number of the next unit
    have next : (2 : ℚ) ^ (unitExponent q + 1) = 2 * 2 ^ unitExponent q := by
      rw [two_zpow_add, zpow_one]
      ring
    unfold nearest
    rcases abs_choice (halfEven (q / 2 ^ unitExponent q)) with same | flipped
    · have carried : halfEven (q / 2 ^ unitExponent q) = 2 ^ 53 := by omega
      refine ⟨2 ^ 52, unitExponent q + 1, by norm_num, by omega, ?_⟩
      rw [carried, next]
      push_cast
      ring
    · have carried : halfEven (q / 2 ^ unitExponent q) = -(2 ^ 53) := by omega
      refine ⟨-(2 ^ 52), unitExponent q + 1, by norm_num, by omega, ?_⟩
      rw [carried, next]
      push_cast
      ring

/-- **A binary64 number is its own nearest.** -/
theorem nearest_of_isBinary {q : ℚ} (binary : IsBinary q) : nearest q = q := by
  have best := abs_nearest_sub_le q binary
  rw [sub_self, abs_zero] at best
  exact sub_eq_zero.1 (abs_nonpos_iff.1 best)

/-- **Rounding keeps the order.** -/
theorem nearest_mono {q r : ℚ} (h : q ≤ r) : nearest q ≤ nearest r := by
  by_contra crossed
  have crossed : nearest r < nearest q := not_le.1 crossed
  have first := abs_nearest_sub_le q (isBinary_nearest r)
  have second := abs_nearest_sub_le r (isBinary_nearest q)
  -- both numbers are then half-way between the two, and so the same
  have low : nearest q + nearest r ≤ 2 * q := by
    by_contra nearer
    have other : |nearest r - q| < nearest q - q := abs_lt.2 ⟨by linarith, by linarith⟩
    have this := le_abs_self (nearest q - q)
    linarith
  have high : 2 * r ≤ nearest q + nearest r := by
    by_contra nearer
    have other : |nearest q - r| < r - nearest r := abs_lt.2 ⟨by linarith, by linarith⟩
    have this := neg_le_abs (nearest r - r)
    linarith
  have same : q = r := by linarith
  rw [same] at crossed
  exact lt_irrefl _ crossed

/-! ## §4. Integers. -/

/-- Integers of 53 bits are binary64 numbers. -/
theorem isBinary_intCast {n : ℤ} (h : |n| ≤ 2 ^ 53) : IsBinary n := by
  by_cases bits : |n| < 2 ^ 53
  · exact ⟨n, 0, bits, by norm_num, by simp⟩
  · rcases abs_choice n with same | flipped
    · have full : n = 2 ^ 53 := by omega
      exact ⟨1, 53, by norm_num, by norm_num, by rw [full]; norm_num⟩
    · have full : n = -(2 ^ 53) := by omega
      exact ⟨-1, 53, by norm_num, by norm_num, by rw [full]; norm_num⟩

theorem isBinary_two_zpow {e : ℤ} (h : -1074 ≤ e) : IsBinary (2 ^ e) :=
  ⟨1, e, by norm_num, h, by simp⟩

/-- The integer that is taken for an integer. -/
def nearestInt (n : ℤ) : ℤ := ⌊nearest n⌋

/-- **An integer rounds to an integer.** -/
theorem nearest_intCast (n : ℤ) : nearest n = nearestInt n := by
  have whole : ∃ k : ℤ, nearest n = k := by
    rcases le_total 0 (unitExponent n) with coarse | fine
    · have unit := two_zpow_eq_mul coarse
      rw [zpow_zero, mul_one] at unit
      refine ⟨halfEven (n / 2 ^ unitExponent n) * (2 ^ (unitExponent n - 0).toNat : ℕ), ?_⟩
      rw [Int.cast_mul, Int.cast_natCast, ← unit]
      rfl
    · -- one is a whole number of units, and so is every integer
      have unit := two_zpow_eq_mul fine
      rw [zpow_zero] at unit
      have units : (n : ℚ) / 2 ^ unitExponent n
          = ((n * (2 ^ (0 - unitExponent n).toNat : ℕ) : ℤ) : ℚ) := by
        rw [div_eq_iff (two_zpow_pos _).ne', Int.cast_mul, Int.cast_natCast, mul_assoc, ← unit,
          mul_one]
      refine ⟨n, ?_⟩
      unfold nearest
      rw [units, halfEven_intCast, ← units, div_mul_cancel₀ _ (two_zpow_pos _).ne']
  obtain ⟨k, hk⟩ := whole
  unfold nearestInt
  rw [hk, Int.floor_intCast]

theorem nearestInt_mono {m n : ℤ} (h : m ≤ n) : nearestInt m ≤ nearestInt n := by
  have order := nearest_mono (show (m : ℚ) ≤ n by exact_mod_cast h)
  rw [nearest_intCast, nearest_intCast] at order
  exact_mod_cast order

/-- Integers of 53 bits are taken for themselves. -/
theorem nearestInt_of_bits {n : ℤ} (h : |n| ≤ 2 ^ 53) : nearestInt n = n := by
  unfold nearestInt
  rw [nearest_of_isBinary (isBinary_intCast h), Int.floor_intCast]

/-- Zero is taken for zero alone among the integers. -/
theorem nearestInt_ne_zero {n : ℤ} (h : n ≠ 0) : nearestInt n ≠ 0 := by
  rcases lt_or_gt_of_ne h with negative | positive
  · have one : nearestInt (-1) = -1 := nearestInt_of_bits (by norm_num)
    have below := nearestInt_mono (show n ≤ -1 by omega)
    omega
  · have one : nearestInt 1 = 1 := nearestInt_of_bits (by norm_num)
    have above := nearestInt_mono (show 1 ≤ n by omega)
    omega

/-! ## §5. The range. -/

theorem round?_zero : round? 0 = some 0 := by
  unfold round?
  rw [nearest_zero, abs_zero, if_pos (by norm_num)]

/-- A binary64 number in the range is kept. -/
theorem round?_of_isBinary {q : ℚ} (binary : IsBinary q) (range : |q| < 2 ^ 1024) :
    round? q = some q := by
  unfold round?
  rw [nearest_of_isBinary binary, if_pos range]

/-- Rounding does not cross a binary64 number. -/
theorem abs_nearest_le {q b : ℚ} (binary : IsBinary b) (h : |q| ≤ b) : |nearest q| ≤ b := by
  have bound := nearest_of_isBinary binary
  rw [abs_le] at h ⊢
  constructor
  · calc -b = nearest (-b) := by rw [nearest_neg, bound]
      _ ≤ nearest q := nearest_mono h.1
  · calc nearest q ≤ nearest b := nearest_mono h.2
      _ = b := bound

/-- A number well in the range stays in it. -/
theorem round?_of_le {q : ℚ} (h : |q| ≤ 2 ^ 1023) : round? q = some (nearest q) := by
  have binary : IsBinary (2 ^ 1023) := isBinary_two_zpow (e := 1023) (by norm_num)
  have range : (2 : ℚ) ^ 1023 < 2 ^ 1024 := pow_lt_pow_right₀ (by norm_num) (by norm_num)
  exact if_pos ((abs_nearest_le binary h).trans_lt range)

/-- An integer of 64 bits stays in it. -/
theorem round?_intCast {n : ℤ} (h : |n| ≤ 2 ^ 63) : round? n = some (nearestInt n : ℚ) := by
  have size : |(n : ℚ)| ≤ 2 ^ 63 := by exact_mod_cast h
  have range : (2 : ℚ) ^ 63 ≤ 2 ^ 1023 := pow_le_pow_right₀ (by norm_num) (by norm_num)
  rw [round?_of_le (size.trans range), nearest_intCast]

/-- An integer of 53 bits is kept. -/
theorem round?_of_bits {n : ℤ} (h : |n| ≤ 2 ^ 53) : round? n = some (n : ℚ) := by
  rw [round?_intCast (h.trans (by norm_num)), nearestInt_of_bits h]

/-- A number that is too large is none. -/
theorem round?_of_large {q : ℚ} (h : 2 ^ 1024 ≤ |q|) : round? q = none := by
  have power : nearest (2 ^ 1024) = 2 ^ 1024 :=
    nearest_of_isBinary (isBinary_two_zpow (e := 1024) (by norm_num))
  have large : 2 ^ 1024 ≤ |nearest q| := by
    rcases abs_cases q with ⟨same, -⟩ | ⟨same, -⟩
    · rw [same] at h
      exact power.symm.trans_le ((nearest_mono h).trans (le_abs_self _))
    · rw [same] at h
      have above := power.symm.trans_le (nearest_mono h)
      rw [nearest_neg] at above
      exact above.trans (neg_le_abs _)
  exact if_neg (not_lt.2 large)

/-- A number that is less than half the least unit is zero. -/
theorem round?_of_small {q : ℚ} (h : |q| < 2 ^ (-1075 : ℤ)) : round? q = some 0 := by
  have zero : nearest q = 0 := by
    by_cases nothing : q = 0
    · rw [nothing, nearest_zero]
    · have unit : unitExponent q = -1074 := by
        have log : Int.log 2 |q| < -1075 :=
          (Int.lt_zpow_iff_log_lt (by norm_num) (abs_pos.2 nothing)).1 (by exact_mod_cast h)
        unfold unitExponent
        omega
      have half : (2 : ℚ) ^ (-1075 : ℤ) = 1 / 2 * 2 ^ (-1074 : ℤ) := by
        rw [show (-1075 : ℤ) = -1 + -1074 by norm_num, two_zpow_add, zpow_neg_one]
        norm_num
      have near : |q / 2 ^ (-1074 : ℤ) - (0 : ℤ)| < 1 / 2 := by
        rw [Int.cast_zero, sub_zero, abs_div, abs_of_pos (two_zpow_pos _),
          div_lt_iff₀ (two_zpow_pos _), ← half]
        exact h
      unfold nearest
      rw [unit, halfEven_eq_of_abs_lt near, Int.cast_zero, zero_mul]
  unfold round?
  rw [zero, abs_zero, if_pos (by norm_num)]

end Recordwise.Binary64
