/-
  Recordwise.Decimal.Shortest
  ───────────────────────────
  **The shortest decimal that reads back, and its positional text.**

  The reals that round to a binary64 number form an interval: from half-way
  to the number below to half-way to the number above, its ends included
  when the mantissa is even.  `Binary.shortest` takes the decimal with the
  fewest digits in that interval, the nearest to the number among those, the
  greater of two equally near ones.  `render` writes it without an exponent
  and without a fraction part when there is none.  Main statement:

      search_readsBack — what the search finds lies in the interval
-/
import Recordwise.Decimal.Dyadic

namespace Recordwise.Decimal

/-! ## §1. The interval of a number. -/

/-- A decimal `digits · 10^exponent`. -/
structure Digits where
  /-- The digits, read as one number. -/
  digits : Nat
  /-- The power of ten they are counted in. -/
  exponent : Int
  deriving Repr, DecidableEq

/-- Compare `a · 10^i` with `n · 2^j`. -/
def compareScaled (a : Nat) (i : Int) (n : Nat) (j : Int) : Ordering :=
  compare (a * Nat.pow 10 i.toNat * Nat.pow 2 (-j).toNat)
    (n * Nat.pow 2 j.toNat * Nat.pow 10 (-i).toNat)

/-- Whether the gap below a normal number is half the gap above it: the
number is a power of two. -/
def narrowBelow (m : Nat) (q : Int) : Bool := m == Nat.pow 2 52 && q > -1074

/-- Whether a decimal lies among the reals that round to `m · 2^q`. -/
def readsBack (m : Nat) (q : Int) (d : Digits) : Bool :=
  -- the ends of the interval, in quarters of a unit
  let low := if narrowBelow m q then 4 * m - 1 else 4 * m - 2
  let high := 4 * m + 2
  let closed := m % 2 == 0
  let belowLow := compareScaled d.digits d.exponent low (q - 2)
  let belowHigh := compareScaled d.digits d.exponent high (q - 2)
  (belowLow == .gt || (closed && belowLow == .eq))
    && (belowHigh == .lt || (closed && belowHigh == .eq))

/-! ## §2. The search. -/

/-- Half the distance rule: whether `m · 2^q` lies below the middle of the
decimals `n` and `n + 1` of the grid `10^g`. -/
def nearerLower (m : Nat) (q : Int) (n : Nat) (g : Int) : Bool :=
  compareScaled (2 * n + 1) g (2 * m) q == .gt

/-- The decimal of the grid `10^g` that reads back and is nearest to
`m · 2^q`, if the grid has one that reads back. -/
def onGrid? (m : Nat) (q : Int) (g : Int) : Option Digits :=
  -- the greatest point of the grid that is not above the number
  let n := m * Nat.pow 2 q.toNat * Nat.pow 10 (-g).toNat
    / (Nat.pow 2 (-q).toNat * Nat.pow 10 g.toNat)
  let lower : Digits := ⟨n, g⟩
  let upper : Digits := ⟨n + 1, g⟩
  match readsBack m q lower, readsBack m q upper with
  | true, true => some (if nearerLower m q n g then lower else upper)
  | true, false => some lower
  | false, true => some upper
  | false, false => none

/-- An exponent `k` with `m · 2^q < 10^k`, least up to the estimate of the
binary logarithm. -/
def scale (m : Nat) (q : Int) : Int :=
  let bits := (Nat.log2 m : Int) + q
  let estimate := bits * 30103 / 100000 - 1
  raise 4 estimate
where
  /-- Raise `k` until `m · 2^q < 10^k`, at most `fuel` times. -/
  raise : Nat → Int → Int
    | 0, k => k
    | fuel + 1, k => if compareScaled 1 k m q == .gt then k else raise fuel (k + 1)

/-- Try the grids of one digit, two digits and so on. -/
def search (m : Nat) (q : Int) (k : Int) : Option Digits :=
  (List.range 17).findSome? fun n => onGrid? m q (k - (n + 1 : Nat))

/-- The exact decimal of `m · 2^q`. -/
def exactDigits (m : Nat) (q : Int) : Digits :=
  if q < 0 then ⟨m * Nat.pow 5 (-q).toNat, q⟩ else ⟨m * Nat.pow 2 q.toNat, 0⟩

/-- Move trailing zeros of the digits into the exponent. -/
def Digits.strip (d : Digits) : Digits := go d.digits d.digits d.exponent
where
  /-- At most `fuel` zeros are moved. -/
  go : Nat → Nat → Int → Digits
    | 0, n, e => ⟨n, e⟩
    | fuel + 1, n, e => if n ≠ 0 ∧ n % 10 = 0 then go fuel (n / 10) (e + 1) else ⟨n, e⟩

/-- The decimal with the fewest digits that reads back to `m · 2^q`, which is
not zero. -/
def shortest (m : Nat) (q : Int) : Digits :=
  ((search m q (scale m q)).getD (exactDigits m q)).strip

theorem onGrid?_readsBack {m : Nat} {q g : Int} {d : Digits} (h : onGrid? m q g = some d) :
    readsBack m q d = true := by
  simp only [onGrid?] at h
  split at h
  · rename_i h₁ h₂
    split at h <;> cases h <;> assumption
  · rename_i h₁ _; cases h; exact h₁
  · rename_i _ h₂; cases h; exact h₂
  · cases h

/-- **What the search finds reads back.** -/
theorem search_readsBack {m : Nat} {q k : Int} {d : Digits} (h : search m q k = some d) :
    readsBack m q d = true := by
  obtain ⟨n, _, hn⟩ := List.exists_of_findSome?_eq_some h
  exact onGrid?_readsBack hn

/-! ## §3. Positional text. -/

/-- The decimal digits of a natural number. -/
def natText (n : Nat) : List Char := Nat.toDigits 10 n

/-- The decimal text of an integer. -/
def intText (i : Int) : List Char :=
  if i < 0 then '-' :: natText i.natAbs else natText i.natAbs

/-- The digits with the decimal point where the exponent puts it, and no
exponent. -/
def Digits.positional (d : Digits) : List Char :=
  let ds := natText d.digits
  if 0 ≤ d.exponent then ds ++ List.replicate d.exponent.toNat '0'
  else
    let places := (-d.exponent).toNat
    if places < ds.length then
      ds.take (ds.length - places) ++ '.' :: ds.drop (ds.length - places)
    else '0' :: '.' :: (List.replicate (places - ds.length) '0' ++ ds)

/-- The text of a float: the shortest digits that read back, written without
an exponent; a negative zero keeps its sign. -/
def floatText (x : Float) : List Char :=
  match Dyadic.ofFloat? x with
  | some d =>
    let body := if d.mantissa = 0 then ['0'] else (shortest d.mantissa d.exponent).positional
    if d.negative then '-' :: body else body
  | none =>
    if x.isNaN then ['N', 'a', 'N'] else if x < 0 then ['-', 'i', 'n', 'f'] else ['i', 'n', 'f']

end Recordwise.Decimal
