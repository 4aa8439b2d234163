/-
  Recordwise.Proofs.Value.IntegerReading
  ──────────────────────────────────────
  **Which integer a value is read as.**

  A value that is a 64-bit integer, or whose text writes one with digits
  alone, is read as that integer.  Any other number goes through binary64: it
  is read when the binary64 number nearest to it is a finite integer, and then
  as that integer, clamped to 64 bits.  Main statements:

      integerNear?_exact_iff
                            — which numbers come through binary64 as themselves
      asInteger?_of_literal — integers written out are read exactly
      asInteger?_of_number  — other numbers are rounded and clamped
      asInteger?_characterized
                            — both, and when the integer is the number itself
-/
import Recordwise.Proofs.Decimal.Integral
import Recordwise.Proofs.Value.Numbers

namespace Recordwise.Value

open Binary64 (toRat? nearest round?)

/-! ## §1. The number of a value. -/

/-- The integer of a value that is one, or whose text writes one with digits
alone. -/
def literal? : Value → Option Int64
  | integer n => some n
  | text s => Decimal.int64? (Text.trim s.toList)
  | _ => none

/-- The number that a value denotes. -/
def number? : Value → Option ℚ
  | integer n => some (n.toInt : ℚ)
  | float x => toRat? x
  | text s => (Decimal.numeral? (Text.trim s.toList)).map Decimal.Numeral.value
  | _ => none

/-- The number that a value is read as: the exponent of a text counts as it is
read. -/
def readNumber? : Value → Option ℚ
  | text s => (Decimal.readNumeral? (Text.trim s.toList)).map Decimal.Numeral.value
  | v => v.number?

/-- Whether the exponent of a text is read to its end. -/
def HasShortExponent : Value → Prop
  | text s => ∀ n, Decimal.numeral? (Text.trim s.toList) = some n → |n.exponent| < 655360
  | _ => True

/-- The 64-bit integer that a number becomes on the way through binary64. -/
def integerNear? (q : ℚ) : Option Int64 :=
  if |nearest q| < 2 ^ 1024 ∧ nearest q = ⌊nearest q⌋ then
    some (Decimal.clampInt64 ⌊nearest q⌋)
  else none

theorem number?_text {s : String} {n : Decimal.Numeral}
    (h : Decimal.numeral? (Text.trim s.toList) = some n) : (text s).number? = some n.value :=
  congrArg (Option.map Decimal.Numeral.value) h

/-- What is read of a short exponent is what is written. -/
theorem readNumber?_of_short {v : Value} (short : v.HasShortExponent) :
    v.readNumber? = v.number? := by
  cases v with
  | null => rfl
  | boolean b => rfl
  | integer n => rfl
  | float x => rfl
  | text s => exact congrArg (Option.map _) (Decimal.readNumeral?_of_short short)

/-! ## §2. Through binary64. -/

/-- An integer near to a number has come from an integral binary64 number. -/
theorem integerNear?_eq_some {q : ℚ} {i : Int64} (h : integerNear? q = some i) :
    ∃ k : ℤ, nearest q = k ∧ Decimal.clampInt64 k = i := by
  unfold integerNear? at h
  split at h
  · rename_i whole
    exact ⟨_, whole.2, Option.some.inj h⟩
  · cases h

/-- A number that is rounded to another has the integers near to that. -/
theorem round?_bind_integerNear? (q : ℚ) : (round? q).bind integerNear? = integerNear? q := by
  have again : nearest (nearest q) = nearest q :=
    Binary64.nearest_of_isBinary (Binary64.isBinary_nearest q)
  unfold round? integerNear?
  by_cases range : |nearest q| < 2 ^ 1024
  · rw [if_pos range, Option.bind_some, again]
  · rw [if_neg range, if_neg fun whole => range whole.1]
    rfl

/-- The integer of a float is that of its number. -/
theorem integral?_eq (x : Float) : integral? x = (toRat? x).bind integerNear? := by
  unfold integral?
  cases value : toRat? x with
  | none =>
      rw [Binary64.isIntegral_of_none value, if_neg Bool.false_ne_true]
      rfl
  | some q =>
      -- the number of a float is its own nearest
      obtain ⟨range, kept⟩ : |nearest q| < 2 ^ 1024 ∧ nearest q = q := by
        have kept := Binary64.round?_of_toRat? value
        unfold round? at kept
        split at kept
        · rename_i range
          exact ⟨range, Option.some.inj kept⟩
        · cases kept
      rw [Option.bind_some]
      unfold integerNear?
      rw [kept] at range ⊢
      by_cases whole : ∃ k : ℤ, q = k
      · rw [if_pos ((Binary64.isIntegral_iff_value value).2 whole)]
        obtain ⟨k, rfl⟩ := whole
        rw [Int.floor_intCast, if_pos ⟨range, rfl⟩, Binary64.toInt64_eq value]
      · rw [if_neg fun integral => whole ((Binary64.isIntegral_iff_value value).1 integral),
          if_neg fun near => whole ⟨_, near.2⟩]

/-- Whether a number comes through binary64 as itself: it is a binary64 number
of the 64-bit range, or the greatest integer of that range, which is rounded
up and clamped back. -/
def IsKept (q : ℚ) : Prop := nearest q = q ∧ -2 ^ 63 ≤ q ∧ q < 2 ^ 63 ∨ q = 2 ^ 63 - 1

/-- The greatest integer is rounded up to the number behind the range. -/
theorem nearest_greatest : nearest (2 ^ 63 - 1) = 2 ^ 63 := by
  have unit : Binary64.unitExponent (2 ^ 63 - 1) = 10 := by
    have log : Int.log 2 |(2 ^ 63 - 1 : ℚ)| = 62 := by
      have natural : |(2 ^ 63 - 1 : ℚ)| = ((2 ^ 63 - 1 : ℕ) : ℚ) := by norm_num
      have bits : Nat.log 2 (2 ^ 63 - 1) = 62 := by
        rw [Nat.log_eq_iff (Or.inl (by norm_num))]
        norm_num
      rw [natural, Int.log_natCast, bits]
      rfl
    unfold Binary64.unitExponent
    rw [log]
    norm_num
  have units : Binary64.halfEven ((2 ^ 63 - 1) / 2 ^ (10 : ℤ)) = 2 ^ 53 := by
    apply Binary64.halfEven_eq_of_abs_lt
    rw [abs_lt]
    norm_num
  unfold nearest
  rw [unit, units]
  norm_num

/-- **The integer near to a number is the number itself when it is kept.** -/
theorem integerNear?_exact_iff {q : ℚ} {i : Int64} (h : integerNear? q = some i) :
    q = (i.toInt : ℚ) ↔ IsKept q := by
  have least : Int64.minValue.toInt = -2 ^ 63 := by decide
  have most : Int64.maxValue.toInt = 2 ^ 63 - 1 := by decide
  obtain ⟨k, near, rfl⟩ := integerNear?_eq_some h
  -- the two ends of the range: one is a binary64 number, the other one is not
  have bottom (ends : q = -2 ^ 63) : k = -2 ^ 63 := by
    have binary : Binary64.IsBinary q := ⟨-1, 63, by norm_num, by norm_num, by rw [ends]; norm_num⟩
    rw [Binary64.nearest_of_isBinary binary, ends] at near
    exact_mod_cast near.symm
  have top (ends : q = 2 ^ 63 - 1) : k = 2 ^ 63 := by
    rw [ends, nearest_greatest] at near
    exact_mod_cast near.symm
  unfold IsKept Decimal.clampInt64
  rw [near]
  split
  · rename_i below
    rw [least] at below ⊢
    rw [Int.cast_neg, Int.cast_pow, Int.cast_ofNat]
    refine ⟨fun ends => absurd (bottom ends) (by omega), ?_⟩
    rintro (⟨rfl, low, -⟩ | ends)
    · have low : -2 ^ 63 ≤ k := by exact_mod_cast low
      omega
    · have := top ends
      omega
  · split
    · rename_i above
      rw [most] at above ⊢
      rw [Int.cast_sub, Int.cast_pow, Int.cast_ofNat, Int.cast_one]
      refine ⟨Or.inr, ?_⟩
      rintro (⟨rfl, -, high⟩ | ends)
      · have high : k < 2 ^ 63 := by exact_mod_cast high
        omega
      · exact ends
    · rename_i low high
      rw [Int64.toInt_ofInt_of_le (by omega) (by omega)]
      constructor
      · rintro rfl
        refine Or.inl ⟨rfl, ?_, ?_⟩
        · exact_mod_cast (show -2 ^ 63 ≤ k by omega)
        · exact_mod_cast (show k < 2 ^ 63 by omega)
      · rintro (⟨kept, -⟩ | ends)
        · exact kept.symm
        · have := top ends
          omega

/-! ## §3. Reading. -/

/-- **Integers written out are read exactly.** -/
theorem asInteger?_of_literal {v : Value} {n : Int64} (h : v.literal? = some n) :
    v.asInteger? = some n ∧ v.number? = some (n.toInt : ℚ) := by
  cases v with
  | null => cases h
  | boolean b => cases h
  | integer m => exact ⟨h, congrArg (Option.map fun n : Int64 => (n.toInt : ℚ)) h⟩
  | float x => cases h
  | text s =>
      have h : Decimal.int64? (Text.trim s.toList) = some n := h
      refine ⟨?_, Decimal.numeral?_of_int64? h⟩
      unfold asInteger?
      dsimp only
      rw [h]
      rfl

/-- **Other numbers are rounded and clamped.** -/
theorem asInteger?_of_number {v : Value} (h : v.literal? = none) :
    v.asInteger? = v.readNumber?.bind integerNear? := by
  cases v with
  | null => rfl
  | boolean b => rfl
  | integer n => cases h
  | float x => exact integral?_eq x
  | text s =>
      have h : Decimal.int64? (Text.trim s.toList) = none := h
      have read := Decimal.toRat?_float? (Text.trim s.toList)
      unfold asInteger? readNumber?
      dsimp only
      rw [h]
      calc (Decimal.float? (Text.trim s.toList)).bind integral?
          = ((Decimal.float? (Text.trim s.toList)).bind toRat?).bind integerNear? := by
            rw [Option.bind_assoc]
            exact congrArg _ (funext integral?_eq)
        _ = (Decimal.readNumeral? (Text.trim s.toList)).bind fun n =>
              (round? n.value).bind integerNear? := by
            rw [read, Option.bind_assoc]
        _ = ((Decimal.readNumeral? (Text.trim s.toList)).map Decimal.Numeral.value).bind
              integerNear? := by
            rw [Option.bind_map]
            exact congrArg _ (funext fun n => round?_bind_integerNear? n.value)

/-- **What integer a value is read as, and when that is its number.** -/
theorem asInteger?_characterized (v : Value) :
    (∀ n, v.literal? = some n → v.asInteger? = some n ∧ v.number? = some (n.toInt : ℚ))
      ∧ (v.literal? = none → v.asInteger? = v.readNumber?.bind integerNear?)
      ∧ (v.HasShortExponent → v.readNumber? = v.number?
          ∧ ∀ i, v.asInteger? = some i →
            (v.number? = some (i.toInt : ℚ)
              ↔ v.literal?.isSome ∨ ∃ q, v.number? = some q ∧ IsKept q)) := by
  refine ⟨fun n => asInteger?_of_literal, asInteger?_of_number, fun short =>
    ⟨readNumber?_of_short short, fun i read => ?_⟩⟩
  cases written : v.literal? with
  | some n =>
      obtain ⟨same, value⟩ := asInteger?_of_literal written
      rw [read] at same
      rw [value, Option.some.inj same]
      exact iff_of_true rfl (Or.inl rfl)
  | none =>
      -- the number went through binary64, and is what came out when it was kept
      rw [asInteger?_of_number written, readNumber?_of_short short] at read
      obtain ⟨q, value, near⟩ := Option.bind_eq_some_iff.1 read
      rw [value, Option.some_inj, integerNear?_exact_iff near]
      simp

theorem asInteger?_characterized_written :
    Value.literal? (.text " 12 ") = some 12
      ∧ Value.asInteger? (.text " 12 ") = some 12 ∧ Value.number? (.text " 12 ") = some 12
      ∧ Value.literal? (.text "5.0") = none ∧ Value.HasShortExponent (.text "5.0")
      ∧ Value.asInteger? (.text "5.0") = some 5
      ∧ (Value.number? (.text "5.0") = some 5
          ↔ (Value.literal? (.text "5.0")).isSome
            ∨ ∃ q, Value.number? (.text "5.0") = some q ∧ IsKept q) := by
  have digits : Value.literal? (.text " 12 ") = some 12 := by decide +kernel
  have point : Value.literal? (.text "5.0") = none := by decide +kernel
  have numeral : Decimal.numeral? (Text.trim "5.0".toList) = some ⟨false, 50, 1, 0⟩ := by
    decide +kernel
  have short : Value.HasShortExponent (.text "5.0") := by
    intro n written
    rw [← Option.some.inj (numeral.symm.trans written)]
    norm_num
  have read : Value.asInteger? (.text "5.0") = some 5 := by decide +kernel
  obtain ⟨same, value⟩ := (asInteger?_characterized (.text " 12 ")).1 12 digits
  exact ⟨digits, same, value, point, short, read,
    ((asInteger?_characterized (.text "5.0")).2.2 short).2 5 read⟩

/-- An integer beyond 53 bits that is written with a point is read as its
neighbour, and one beyond the 64-bit range as the greatest of the range. -/
theorem not_asInteger?_exact :
    (¬ ∀ (v : Value) (i : Int64), v.asInteger? = some i → v.number? = some (i.toInt : ℚ))
      ∧ ¬ ∀ (v : Value) (q : ℚ), v.number? = some q → (∀ i : Int64, q ≠ (i.toInt : ℚ)) →
          v.asInteger? = none := by
  constructor
  · intro exact
    have read : Value.asInteger? (.text "9007199254740993.0") = some 9007199254740992 := by
      decide +kernel
    have numeral : Decimal.numeral? (Text.trim "9007199254740993.0".toList)
        = some ⟨false, 90071992547409930, 1, 0⟩ := by decide +kernel
    have claimed := exact _ _ read
    have value : Decimal.Numeral.value ⟨false, 90071992547409930, 1, 0⟩ = 9007199254740993 := by
      unfold Decimal.Numeral.value
      norm_num
    have neighbour : (9007199254740992 : Int64).toInt = 9007199254740992 := by decide
    rw [number?_text numeral, value, neighbour, Option.some_inj] at claimed
    exact absurd claimed (by norm_num)
  · intro refused
    have read : Value.asInteger? (.text "9223372036854775809") = some Int64.maxValue := by
      decide +kernel
    have numeral : Decimal.numeral? (Text.trim "9223372036854775809".toList)
        = some ⟨false, 9223372036854775809, 0, 0⟩ := by decide +kernel
    have value := number?_text numeral
    rw [Decimal.value_of_digits] at value
    have claimed := refused _ _ value fun i same => by
      have high := i.toInt_lt
      have same : 9223372036854775809 = i.toInt := by exact_mod_cast same
      omega
    rw [read] at claimed
    cases claimed

end Recordwise.Value
