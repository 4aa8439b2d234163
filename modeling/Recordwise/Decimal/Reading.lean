/-
  Recordwise.Decimal.Reading
  ──────────────────────────
  **Reading numbers from text.**

  Two grammars, over ASCII digits only and with nothing around them:

      integer  — optional sign, digits, the value within 64 bits
      float    — optional sign, then `inf`, `infinity` or `nan` in any case, or
                 digits with an optional point (`5.`, `.5`, not `.`) and an
                 optional exponent `e±digits`

  A decimal is rounded to the nearest float; beyond the greatest float it
  reads as an infinity and below half the least one as zero.  An exponent is
  read to its end only while it is short: see `exponentOfDigits`.  Main
  statements:

      natOfDigits_eq         — digits denote the number they do in base ten
      exponentOfDigits_of_lt — an exponent below 655360 is read exactly
      int64?_intText         — the decimal text of a 64-bit integer reads back
-/
import Recordwise.Decimal.Shortest
import Recordwise.Text.Blank
import Recordwise.Text.CaseMapping

namespace Recordwise.Decimal

/-! ## §1. Digits and signs. -/

/-- Whether a character is an ASCII digit. -/
def isDigit (c : Char) : Bool := '0' ≤ c && c ≤ '9'

/-- The digits, by code point. -/
theorem isDigit_iff (c : Char) : isDigit c = true ↔ 48 ≤ c.toNat ∧ c.toNat ≤ 57 := by
  simp only [isDigit, Bool.and_eq_true, decide_eq_true_eq, Char.le_def, UInt32.le_iff_toNat_le]
  rfl

/-- No digit is blank. -/
theorem isBlank_of_isDigit {c : Char} (h : isDigit c = true) : Text.isBlank c = false := by
  rw [isDigit_iff] at h
  simp only [Text.isBlank, Bool.or_eq_false_iff, Bool.and_eq_false_iff, decide_eq_false_iff_not,
    beq_eq_false_iff_ne]
  omega

/-- A number while its digits come in, `high · 10^size + low`.  The low part
stays short, so that a long number is not rebuilt for each digit. -/
structure Partial where
  /-- The number of the digits that are done with. -/
  high : Nat
  /-- The number of the digits behind them. -/
  low : Nat
  /-- How many digits the low part has. -/
  size : Nat
  deriving Repr, DecidableEq

/-- The number of the digits so far. -/
def Partial.value (p : Partial) : Nat := p.high * Nat.pow 10 p.size + p.low

/-- Take one more digit in. -/
def Partial.push (p : Partial) (c : Char) : Partial :=
  if p.size < 1000 then ⟨p.high, Nat.ofDigitChars 10 [c] p.low, p.size + 1⟩
  else ⟨p.value, Nat.ofDigitChars 10 [c] 0, 1⟩

/-- The number that digits denote. -/
def natOfDigits (cs : List Char) : Nat := (cs.foldl Partial.push ⟨0, 0, 0⟩).value

theorem value_push (p : Partial) (c : Char) :
    (p.push c).value = Nat.ofDigitChars 10 [c] p.value := by
  have step (n : Nat) : Nat.ofDigitChars 10 [c] n = 10 * n + (c.toNat - '0'.toNat) := rfl
  have power (k : Nat) : Nat.pow 10 (k + 1) = 10 * Nat.pow 10 k := Nat.mul_comm _ _
  have unit : Nat.pow 10 1 = 10 := rfl
  unfold Partial.push
  split
  · simp only [Partial.value, step, power]
    rw [Nat.mul_add, ← Nat.add_assoc, Nat.mul_left_comm]
  · simp only [Partial.value, step, unit]
    omega

/-- Digits denote the number they do in base ten. -/
theorem natOfDigits_eq (cs : List Char) : natOfDigits cs = Nat.ofDigitChars 10 cs 0 := by
  have from_any (p : Partial) :
      (cs.foldl Partial.push p).value = Nat.ofDigitChars 10 cs p.value := by
    induction cs generalizing p with
    | nil => rfl
    | cons c cs ih => exact (ih (p.push c)).trans (by rw [value_push]; rfl)
  exact from_any ⟨0, 0, 0⟩

/-- Split an optional leading sign off: whether it is a minus, and the rest. -/
def splitSign : List Char → Bool × List Char
  | '-' :: cs => (true, cs)
  | '+' :: cs => (false, cs)
  | cs => (false, cs)

/-! ## §2. Integers. -/

/-- Whether 64 bits hold an integer. -/
def fitsInt64 (i : Int) : Bool := Int64.minValue.toInt ≤ i && i ≤ Int64.maxValue.toInt

/-- The 64-bit integer that a text denotes. -/
def int64? (cs : List Char) : Option Int64 :=
  let (negative, ds) := splitSign cs
  if ds ≠ [] ∧ ds.all isDigit then
    let i : Int := if negative then -(natOfDigits ds : Int) else natOfDigits ds
    if fitsInt64 i then some (Int64.ofInt i) else none
  else none

/-! ## §3. Floats. -/

/-- The float nearest to `m · 10^e`, for any size of `e`. -/
def floatOfScientific (m : Nat) (e : Int) : Float :=
  -- far outside the range of floats no power of ten is computed; the decimal
  -- logarithm of two lies between the two fractions
  let least := (Nat.log2 m : Int) * 30102 / 100000 + e
  let most := (Nat.log2 m : Int) * 30103 / 100000 + e
  if m = 0 then 0.0
  else if least > 310 then 1.0 / 0.0
  else if most < -330 then 0.0
  else Float.ofScientific m (e < 0) e.natAbs

/-- The number that the digits of an exponent denote.  A digit is taken in
while the number before it is below 65536; what follows is dropped.  That
shows only where hundreds of thousands of digits stand before the exponent,
since any other number is out of the range of floats long before. -/
def exponentOfDigits (ds : List Char) : Nat :=
  ds.foldl (fun e c => if e < 65536 then Nat.ofDigitChars 10 [c] e else e) 0

/-- The value of an optional exponent part: `none` if the text is not one. -/
def exponentPart? : List Char → Option Int
  | [] => some 0
  | c :: cs =>
    if c = 'e' ∨ c = 'E' then
      let (negative, ds) := splitSign cs
      if ds ≠ [] ∧ ds.all isDigit then
        some (if negative then -(exponentOfDigits ds : Int) else exponentOfDigits ds)
      else none
    else none

theorem le_ofDigitChars (cs : List Char) (n : Nat) : n ≤ Nat.ofDigitChars 10 cs n := by
  induction cs generalizing n with
  | nil => simp
  | cons c cs ih =>
    have step : n ≤ 10 * n + (c.toNat - '0'.toNat) := by omega
    exact Nat.le_trans step (ih _)

/-- An exponent below 655360 is read exactly. -/
theorem exponentOfDigits_of_lt {ds : List Char} (h : natOfDigits ds < 655360) :
    exponentOfDigits ds = natOfDigits ds := by
  unfold exponentOfDigits
  rw [natOfDigits_eq] at h ⊢
  generalize 0 = e at h ⊢
  induction ds generalizing e with
  | nil => rfl
  | cons c cs ih =>
    have step : Nat.ofDigitChars 10 (c :: cs) e
        = Nat.ofDigitChars 10 cs (Nat.ofDigitChars 10 [c] e) := rfl
    have digit : Nat.ofDigitChars 10 [c] e = 10 * e + (c.toNat - '0'.toNat) := rfl
    rw [step] at h ⊢
    have room : e < 65536 := by
      have := le_ofDigitChars cs (Nat.ofDigitChars 10 [c] e)
      omega
    rw [List.foldl_cons, if_pos room]
    exact ih _ h

/-- Digits with an optional point and an optional exponent. -/
def unsignedDecimal? (cs : List Char) : Option Float :=
  let whole := cs.takeWhile isDigit
  let rest := cs.dropWhile isDigit
  let (fraction, rest) := match rest with
    | '.' :: r => (r.takeWhile isDigit, r.dropWhile isDigit)
    | r => ([], r)
  if whole = [] ∧ fraction = [] then none
  else (exponentPart? rest).map fun e =>
    floatOfScientific (natOfDigits (whole ++ fraction)) (e - fraction.length)

/-- The words for the values that digits cannot write. -/
def specialWord? (cs : List Char) : Option Float :=
  let w := cs.map Text.asciiLower
  if w = ['i', 'n', 'f'] ∨ w = ['i', 'n', 'f', 'i', 'n', 'i', 't', 'y'] then some (1.0 / 0.0)
  else if w = ['n', 'a', 'n'] then some (0.0 / 0.0)
  else none

/-- The float that a text denotes. -/
def float? (cs : List Char) : Option Float :=
  let (negative, body) := splitSign cs
  ((specialWord? body).orElse fun _ => unsignedDecimal? body).map fun x =>
    if negative then -x else x

/-! ## §4. Integers read back. -/

theorem isDigit_of_mem_natText {n : Nat} {c : Char} (h : c ∈ natText n) : isDigit c = true := by
  have := Nat.isDigit_of_mem_toDigits (by decide) (by decide) h
  simpa [isDigit, Char.isDigit, Char.le_def, UInt32.le_iff_toNat_le, ge_iff_le] using this

theorem natText_ne_nil (n : Nat) : natText n ≠ [] := Nat.toDigits_ne_nil

theorem natOfDigits_natText (n : Nat) : natOfDigits (natText n) = n :=
  (natOfDigits_eq _).trans (Nat.ofDigitChars_toDigits (by decide) (by decide))

theorem splitSign_natText (n : Nat) : splitSign (natText n) = (false, natText n) := by
  unfold splitSign
  split
  · rename_i cs h
    have : isDigit '-' = true := isDigit_of_mem_natText (n := n) (by rw [h]; simp)
    exact absurd this (by decide)
  · rename_i cs h
    have : isDigit '+' = true := isDigit_of_mem_natText (n := n) (by rw [h]; simp)
    exact absurd this (by decide)
  · rfl

/-- **The decimal text of a 64-bit integer reads back.** -/
theorem int64?_intText (n : Int64) : int64? (intText n.toInt) = some n := by
  have hall : ∀ k : Nat, natText k ≠ [] ∧ (natText k).all isDigit = true := fun k =>
    ⟨natText_ne_nil k, by simpa using fun c hc => isDigit_of_mem_natText hc⟩
  have hlo : Int64.minValue.toInt ≤ n.toInt := n.minValue_le_toInt
  have hhi : n.toInt ≤ Int64.maxValue.toInt := n.toInt_le
  have hfit : fitsInt64 n.toInt = true := by
    simp only [fitsInt64, Bool.and_eq_true, decide_eq_true_eq]; exact ⟨hlo, hhi⟩
  by_cases h : n.toInt < 0
  · have habs : -(n.toInt.natAbs : Int) = n.toInt := by omega
    simp only [int64?, intText, h, if_true, splitSign]
    rw [if_pos (hall _), natOfDigits_natText, habs, hfit]
    simp
  · have habs : (n.toInt.natAbs : Int) = n.toInt := by omega
    simp only [int64?, intText, h, if_false, splitSign_natText]
    rw [if_pos (hall _), natOfDigits_natText]
    simp [habs, hfit]

end Recordwise.Decimal
