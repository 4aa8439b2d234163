/-
  Recordwise.Document.Json.Number
  ───────────────────────────────
  **Numbers in JSON, and which of them are in range.**

  A number is read into a significand of 64 bits and a power of ten: digits
  are taken in as long as the significand has room.  A whole digit that is
  left out still counts as a power of ten; once a digit of the fraction is
  left out, so are all behind it.  The number is out of range if its
  significand and its power, each rounded to a float, multiply to an infinity.
  Close to the greatest float that refuses numbers which are below it.  Main
  statements:

      takeDigits_of_le      — digits for which there is room are all taken
      isInRange_of_fraction — no number that is scaled down is out of range
-/
import Recordwise.Decimal.Reading
import Recordwise.Document.Basic

namespace Recordwise.Document.Json

/-! ## §1. The parts of a number. -/

/-- Split the digits in front off; there has to be one. -/
def digits? (cs : List Char) : Option (List Char × List Char) :=
  match cs.takeWhile Decimal.isDigit with
  | [] => none
  | d :: ds => some (d :: ds, cs.dropWhile Decimal.isDigit)

/-- The digits of the whole part: a zero, or digits that begin with no zero. -/
def whole? : List Char → Option (List Char × List Char)
  | '0' :: r =>
    match r with
    | c :: _ => if Decimal.isDigit c then none else some (['0'], r)
    | [] => some (['0'], [])
  | cs => digits? cs

/-- The digits of the fraction, which may be missing. -/
def fraction? : List Char → Option (List Char × List Char)
  | '.' :: r => digits? r
  | cs => some ([], cs)

/-- The exponent, zero if it is missing. -/
def exponent? : List Char → Option (Int × List Char)
  | c :: r =>
    if c = 'e' ∨ c = 'E' then do
      let (negative, r) := Decimal.splitSign r
      let (ds, r) ← digits? r
      return (if negative then -(Decimal.natOfDigits ds : Int) else Decimal.natOfDigits ds, r)
    else some (0, c :: r)
  | [] => some (0, [])

/-! ## §2. Significand and power. -/

/-- The greatest significand. -/
def maxSignificand : Nat := Nat.pow 2 64 - 1

/-- Take digits into a significand while it has room, and what is left. -/
def takeDigits (significand : Nat) : List Char → Nat × List Char
  | [] => (significand, [])
  | c :: cs =>
    let s := Nat.ofDigitChars 10 [c] significand
    if s ≤ maxSignificand then takeDigits s cs else (significand, c :: cs)

/-- A number without its sign, as it is read: `significand · 10^exponent`. -/
structure Number where
  /-- The digits for which there is room. -/
  significand : Nat
  /-- The power of ten. -/
  exponent : Int
  deriving Repr, DecidableEq

namespace Number

/-- The number of a whole part, a fraction and an exponent. -/
def ofParts (whole fraction : List Char) (exponent : Int) : Number :=
  let (s, leftWhole) := takeDigits 0 whole
  let (s, leftFraction) := takeDigits s fraction
  ⟨s, exponent + leftWhole.length - (fraction.length - leftFraction.length)⟩

/-- Whether the floats hold a number. -/
def isInRange (n : Number) : Bool :=
  n.significand = 0 || n.exponent < 0
    || n.exponent ≤ 308
      && !(Decimal.floatOfScientific n.significand 0
        * Decimal.floatOfScientific 1 n.exponent).isInf

end Number

/-- The number in front, and the rest behind it. -/
def number? (cs : List Char) : Option (Number × List Char) := do
  let cs := match cs with
    | '-' :: r => r
    | r => r
  let (whole, r) ← whole? cs
  let (fraction, r) ← fraction? r
  let (exponent, r) ← exponent? r
  return (.ofParts whole fraction exponent, r)

/-! ## §3. What is taken, and what is in range. -/

theorem takeDigits_of_le {cs : List Char} {s : Nat}
    (h : Nat.ofDigitChars 10 cs s ≤ maxSignificand) :
    takeDigits s cs = (Nat.ofDigitChars 10 cs s, []) := by
  induction cs generalizing s with
  | nil => rfl
  | cons c cs ih =>
    have step : Nat.ofDigitChars 10 (c :: cs) s
        = Nat.ofDigitChars 10 cs (Nat.ofDigitChars 10 [c] s) := rfl
    rw [step] at h ⊢
    rw [takeDigits, if_pos (Nat.le_trans (Decimal.le_ofDigitChars cs _) h), ih h]

theorem isInRange_of_fraction {n : Number} (h : n.exponent < 0) : n.isInRange = true := by
  simp [Number.isInRange, h]

end Recordwise.Document.Json
