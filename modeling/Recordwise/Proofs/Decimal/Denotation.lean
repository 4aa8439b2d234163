/-
  Recordwise.Proofs.Decimal.Denotation
  ────────────────────────────────────
  **The number that a text writes, and the float it reads as.**

  A numeral has a sign, digits with a point among them and an exponent, and
  denotes an exact number.  `float?` reads it as the binary64 number nearest
  to that number, or as an infinity, with one exception: an exponent of 655360
  or more is not read to its end.  Main statements:

      toRat?_float?     — a text reads as the number it writes, rounded once
      readNumeral?_of_short
                        — the exponent is read exactly while it is short
      float?_intText    — the text of a 64-bit integer reads as the integer
                          does
-/
import Recordwise.Proofs.Decimal.Conversion
import Mathlib.Data.List.TakeWhile

namespace Recordwise.Decimal

open Binary64 (toRat? round? nearestInt)

/-! ## §1. Numerals. -/

/-- What a decimal text writes. -/
structure Numeral where
  /-- Whether there is a minus before it. -/
  negative : Bool
  /-- The digits before and behind the point, as one number. -/
  digits : ℕ
  /-- How many of them stand behind the point. -/
  places : ℕ
  /-- The exponent. -/
  exponent : ℤ
  deriving DecidableEq

/-- The number that a numeral denotes. -/
def Numeral.value (n : Numeral) : ℚ :=
  (if n.negative then -1 else 1) * (n.digits * 10 ^ (n.exponent - n.places))

/-- The exponent that a text writes, its digits read by `digits`. -/
def exponentBy? (digits : List Char → ℕ) : List Char → Option ℤ
  | [] => some 0
  | c :: cs =>
    if c = 'e' ∨ c = 'E' then
      let (negative, ds) := splitSign cs
      if ds ≠ [] ∧ ds.all isDigit then some (if negative then -(digits ds : ℤ) else digits ds)
      else none
    else none

/-- The digits behind a point, and what follows them. -/
def splitFraction : List Char → List Char × List Char
  | '.' :: cs => (cs.takeWhile isDigit, cs.dropWhile isDigit)
  | cs => ([], cs)

/-- The digits, the places and the exponent of a text without a sign. -/
def unsignedBy? (digits : List Char → ℕ) (cs : List Char) : Option (ℕ × ℕ × ℤ) :=
  let whole := cs.takeWhile isDigit
  let (fraction, rest) := splitFraction (cs.dropWhile isDigit)
  if whole = [] ∧ fraction = [] then none
  else (exponentBy? digits rest).map fun e => (natOfDigits (whole ++ fraction), fraction.length, e)

/-- The numeral that a text is, the digits of its exponent read by
`digits`. -/
def numeralBy? (digits : List Char → ℕ) (cs : List Char) : Option Numeral :=
  let (negative, body) := splitSign cs
  (unsignedBy? digits body).map fun (n, places, e) => ⟨negative, n, places, e⟩

/-- The numeral that a text is. -/
def numeral? : List Char → Option Numeral := numeralBy? natOfDigits

/-- The numeral that a text is read as. -/
def readNumeral? : List Char → Option Numeral := numeralBy? exponentOfDigits

theorem exponentBy?_of_short {cs : List Char}
    (short : ∀ e, exponentBy? natOfDigits cs = some e → |e| < 655360) :
    exponentBy? exponentOfDigits cs = exponentBy? natOfDigits cs := by
  cases cs with
  | nil => rfl
  | cons c cs =>
      unfold exponentBy? at short ⊢
      dsimp only at short ⊢
      split
      · rename_i mark
        rw [if_pos mark] at short
        split
        · rename_i digits
          rw [if_pos digits] at short
          have bound := short _ rfl
          have read : exponentOfDigits (splitSign cs).2 = natOfDigits (splitSign cs).2 := by
            apply exponentOfDigits_of_lt
            split at bound
            · rw [abs_neg, Nat.abs_cast] at bound
              exact_mod_cast bound
            · rw [Nat.abs_cast] at bound
              exact_mod_cast bound
          rw [read]
        · rfl
      · rfl

theorem unsignedBy?_of_short {cs : List Char}
    (short : ∀ p, unsignedBy? natOfDigits cs = some p → |p.2.2| < 655360) :
    unsignedBy? exponentOfDigits cs = unsignedBy? natOfDigits cs := by
  unfold unsignedBy? at short ⊢
  dsimp only at short ⊢
  generalize (splitFraction (cs.dropWhile isDigit)).1 = fraction at short ⊢
  generalize (splitFraction (cs.dropWhile isDigit)).2 = rest at short ⊢
  by_cases empty : cs.takeWhile isDigit = [] ∧ fraction = []
  · rw [if_pos empty, if_pos empty]
  · rw [if_neg empty] at short ⊢
    rw [if_neg empty, exponentBy?_of_short]
    intro e he
    rw [he] at short
    exact short _ rfl

/-- **The exponent is read exactly while it is short.** -/
theorem readNumeral?_of_short {cs : List Char}
    (short : ∀ n, numeral? cs = some n → |n.exponent| < 655360) :
    readNumeral? cs = numeral? cs := by
  unfold readNumeral? numeral? numeralBy? at *
  dsimp only at short ⊢
  rw [unsignedBy?_of_short]
  intro p hp
  rw [hp] at short
  exact short _ rfl

/-! ## §2. The float of a numeral. -/

theorem exponentPart?_eq (cs : List Char) : exponentPart? cs = exponentBy? exponentOfDigits cs := by
  cases cs with
  | nil => rfl
  | cons c cs => rfl

theorem unsignedDecimal?_eq (cs : List Char) :
    unsignedDecimal? cs = (unsignedBy? exponentOfDigits cs).map fun (n, places, e) =>
      floatOfScientific n (e - places) := by
  show (if cs.takeWhile isDigit = [] ∧ (splitFraction (cs.dropWhile isDigit)).1 = [] then none
    else (exponentPart? (splitFraction (cs.dropWhile isDigit)).2).map fun e =>
      floatOfScientific
        (natOfDigits (cs.takeWhile isDigit ++ (splitFraction (cs.dropWhile isDigit)).1))
        (e - (splitFraction (cs.dropWhile isDigit)).1.length)) = _
  unfold unsignedBy?
  dsimp only
  split
  · rfl
  · rw [exponentPart?_eq, Option.map_map]
    rfl

/-- No character that begins a numeral begins one of the words for an infinity
or NaN. -/
theorem unsignedBy?_of_special {digits : List Char → ℕ} {cs : List Char} {x : Float}
    (h : specialWord? cs = some x) : unsignedBy? digits cs = none := by
  cases cs with
  | nil => rfl
  | cons c cs =>
      -- a word begins with a letter, a numeral with a digit or a point
      have letter : Text.asciiLower c = 'i' ∨ Text.asciiLower c = 'n' := by
        unfold specialWord? at h
        rw [List.map_cons] at h
        dsimp only at h
        split at h
        · rename_i word
          rcases word with word | word
          · exact Or.inl (List.cons.inj word).1
          · exact Or.inl (List.cons.inj word).1
        · split at h
          · rename_i word
            exact Or.inr (List.cons.inj word).1
          · cases h
      have digit : ¬ isDigit c = true := by
        intro digit
        have bounds := (isDigit_iff c).1 digit
        have same : Text.asciiLower c = c := by
          apply Text.asciiLower_of_ascii
          rintro ⟨least, -⟩
          have least : 65 ≤ c.toNat := least
          omega
        rw [same] at letter
        rcases letter with rfl | rfl
        · exact absurd bounds (by decide)
        · exact absurd bounds (by decide)
      have point : splitFraction (c :: cs) = ([], c :: cs) := by
        unfold splitFraction
        split
        · rename_i head
          rw [(List.cons.inj head).1] at letter
          exact absurd letter (by decide)
        · rfl
      unfold unsignedBy?
      rw [List.takeWhile_cons_of_neg digit, List.dropWhile_cons_of_neg digit, point]
      rfl

/-- The float of a special word is not finite. -/
theorem toRat?_of_special {cs : List Char} {x : Float} (h : specialWord? cs = some x) :
    toRat? x = none := by
  unfold specialWord? at h
  dsimp only at h
  split at h
  · have infinite : Dyadic.ofFloat? (1.0 / 0.0) = none := by decide +kernel
    rw [← Option.some.inj h]
    exact congrArg (Option.map Dyadic.value) infinite
  · split at h
    · have undefined : Dyadic.ofFloat? (0.0 / 0.0) = none := by decide +kernel
      rw [← Option.some.inj h]
      exact congrArg (Option.map Dyadic.value) undefined
    · cases h

/-- The number of a numeral with a minus is the opposite one. -/
theorem round?_value (negative : Bool) (n places : ℕ) (e : ℤ) :
    round? (Numeral.value ⟨negative, n, places, e⟩)
      = if negative then (round? (n * 10 ^ (e - places))).map (-·)
        else round? (n * 10 ^ (e - places)) := by
  unfold Numeral.value
  cases negative with
  | true =>
      rw [if_pos rfl, if_pos rfl, neg_one_mul, Binary64.round?_neg]
  | false =>
      rw [if_neg Bool.false_ne_true, if_neg Bool.false_ne_true, one_mul]

/-- **A text reads as the number it writes, rounded once.** -/
theorem toRat?_float? (cs : List Char) :
    (float? cs).bind toRat? = (readNumeral? cs).bind fun n => round? n.value := by
  unfold float? readNumeral? numeralBy?
  dsimp only
  generalize (splitSign cs).1 = negative
  generalize (splitSign cs).2 = body
  have signed (x : Float) : toRat? (if negative then -x else x)
      = if negative then (toRat? x).map (-·) else toRat? x := by
    cases negative with
    | true => exact Binary64.toRat?_neg x
    | false => rfl
  cases special : specialWord? body with
  | some x =>
      -- a word is no numeral, and its float no number
      have none := toRat?_of_special special
      rw [unsignedBy?_of_special special]
      show toRat? (if negative then -x else x) = _
      rw [signed, none]
      split <;> rfl
  | none =>
      show ((unsignedDecimal? body).map fun x => if negative then -x else x).bind toRat? = _
      rw [unsignedDecimal?_eq]
      cases unsignedBy? exponentOfDigits body with
      | none => rfl
      | some p =>
          obtain ⟨n, places, e⟩ := p
          show toRat? (if negative then -floatOfScientific n (e - places)
            else floatOfScientific n (e - places)) = round? (Numeral.value ⟨negative, n, places, e⟩)
          rw [signed, Binary64.toRat?_floatOfScientific, round?_value]

/-! ## §3. Integers. -/

/-- Digits alone are a numeral without a point and an exponent. -/
theorem unsignedBy?_digits (digits : List Char → ℕ) {ds : List Char} (nonempty : ds ≠ [])
    (all : ∀ c ∈ ds, isDigit c = true) : unsignedBy? digits ds = some (natOfDigits ds, 0, 0) := by
  unfold unsignedBy?
  rw [List.takeWhile_eq_self_iff.2 all, List.dropWhile_eq_nil_iff.2 all]
  show (if ds = [] ∧ _ then none else some (natOfDigits (ds ++ []), 0, 0)) = _
  rw [if_neg fun empty => nonempty empty.1, List.append_nil]

/-- Such a numeral denotes an integer. -/
theorem value_of_digits (negative : Bool) (n : ℕ) :
    Numeral.value ⟨negative, n, 0, 0⟩ = ((if negative then -(n : ℤ) else n : ℤ) : ℚ) := by
  unfold Numeral.value
  cases negative with
  | true => simp
  | false => simp

/-- A text that is read as a 64-bit integer denotes it. -/
theorem numeral?_of_int64? {cs : List Char} {n : Int64} (h : int64? cs = some n) :
    (numeral? cs).map Numeral.value = some (n.toInt : ℚ) := by
  unfold int64? at h
  unfold numeral? numeralBy?
  dsimp only at h ⊢
  generalize (splitSign cs).1 = negative at h ⊢
  generalize (splitSign cs).2 = ds at h ⊢
  generalize hi : (if negative = true then -(natOfDigits ds : ℤ) else natOfDigits ds) = i at h
  split at h
  · rename_i digits
    split at h
    · rename_i fits
      obtain ⟨low, high⟩ : Int64.minValue.toInt ≤ i ∧ i ≤ Int64.maxValue.toInt := by
        simpa only [fitsInt64, Bool.and_eq_true, decide_eq_true_eq] using fits
      -- what fits is not wrapped around
      have least : Int64.minValue.toInt = -2 ^ 63 := by decide
      have most : Int64.maxValue.toInt = 2 ^ 63 - 1 := by decide
      rw [unsignedBy?_digits _ digits.1 (List.all_eq_true.1 digits.2), ← Option.some.inj h,
        Int64.toInt_ofInt_of_le (by omega) (by omega), ← hi]
      exact congrArg some (value_of_digits negative _)
    · cases h
  · cases h

/-- The text of an integer is a numeral without a point and an exponent. -/
theorem numeralBy?_intText (digits : List Char → ℕ) (n : ℤ) :
    numeralBy? digits (intText n) = some ⟨decide (n < 0), n.natAbs, 0, 0⟩ := by
  unfold numeralBy? intText
  by_cases negative : n < 0
  · rw [if_pos negative]
    show (unsignedBy? digits (natText n.natAbs)).map _ = _
    rw [unsignedBy?_digits _ (natText_ne_nil _) fun _ => isDigit_of_mem_natText,
      natOfDigits_natText, decide_eq_true negative]
    rfl
  · rw [if_neg negative, splitSign_natText]
    dsimp only
    rw [unsignedBy?_digits _ (natText_ne_nil _) fun _ => isDigit_of_mem_natText,
      natOfDigits_natText, decide_eq_false negative]
    rfl

/-- It denotes the integer. -/
theorem value_intText (n : ℤ) : Numeral.value ⟨decide (n < 0), n.natAbs, 0, 0⟩ = n := by
  rw [value_of_digits]
  congr 1
  split
  · rename_i negative
    have := of_decide_eq_true negative
    omega
  · rename_i negative
    have := of_decide_eq_false (Bool.eq_false_iff.2 negative)
    omega

/-- **The text of a 64-bit integer reads as the integer does.** -/
theorem float?_intText (n : Int64) :
    ∃ x, float? (intText n.toInt) = some x ∧ toRat? x = some (nearestInt n.toInt : ℚ) := by
  have read := toRat?_float? (intText n.toInt)
  unfold readNumeral? at read
  rw [numeralBy?_intText, Option.bind_some, value_intText,
    Binary64.round?_intCast (Binary64.abs_toInt_le n)] at read
  exact Option.bind_eq_some_iff.1 read

end Recordwise.Decimal
