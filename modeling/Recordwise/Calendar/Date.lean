/-
  Recordwise.Calendar.Date
  ────────────────────────
  **Days of the proleptic Gregorian calendar.**

  Days are numbered from 0001-01-01, day zero, a Monday; the calendar goes
  on unchanged before that, with a year zero.  `Date.number` counts the days
  up to a date, `Date.ofNumber` reads a count back through the cycle of 400
  years, 146097 days.  Main statements:

      dayOfWeek_next          — the weekday moves on by one every day
      yearAndPlace_first_year — a count within the year one is its own place
-/

namespace Recordwise.Calendar

/-! ## §1. Years and months. -/

/-- Whether a year has 366 days. -/
def isLeap (y : Int) : Bool := y % 4 == 0 && (y % 100 != 0 || y % 400 == 0)

/-- The days of the months of a year. -/
def monthLengths (leap : Bool) : List Nat :=
  [31, if leap then 29 else 28, 31, 30, 31, 30, 31, 31, 30, 31, 30, 31]

/-- The days of a month, zero when there is no such month. -/
def daysInMonth (y : Int) (m : Nat) : Nat :=
  if m = 0 then 0 else (monthLengths (isLeap y)).getD (m - 1) 0

/-- The days before a month in its year. -/
def daysBeforeMonth (y : Int) (m : Nat) : Nat :=
  ((monthLengths (isLeap y)).take (m - 1)).foldl (· + ·) 0

/-- The days from 0001-01-01 to the first day of a year. -/
def daysBeforeYear (y : Int) : Int :=
  let p := y - 1
  365 * p + p / 4 - p / 100 + p / 400

/-! ## §2. Dates. -/

/-- A day by year, month and day of the month. -/
structure Date where
  /-- The year; year zero precedes year one. -/
  year : Int
  /-- The month, from 1. -/
  month : Nat
  /-- The day of the month, from 1. -/
  day : Nat
  deriving Repr, DecidableEq

namespace Date

/-- Whether the calendar has the day. -/
def isValid (d : Date) : Bool :=
  1 ≤ d.month && d.month ≤ 12 && 1 ≤ d.day && d.day ≤ daysInMonth d.year d.month

/-- The day's place in its year, from 1. -/
def ordinal (d : Date) : Nat := daysBeforeMonth d.year d.month + d.day

/-- The days from 0001-01-01 to the day. -/
def number (d : Date) : Int := daysBeforeYear d.year + (d.ordinal : Int) - 1

end Date

/-- The month and the day of the month at a place counted from zero within
the months that follow month `m`. -/
def monthAndDay (m : Nat) : List Nat → Nat → Nat × Nat
  | [], n => (m + 1, n + 1)
  | [_], n => (m + 1, n + 1)
  | len :: lens, n => if n < len then (m + 1, n + 1) else monthAndDay (m + 1) lens (n - len)

/-- The year of a day number and the place of the day in it, from zero. -/
def yearAndPlace (n : Int) : Int × Nat :=
  -- the last century of a cycle and the last year of a span have a day more,
  -- so their count stops at three
  let cycle := n / 146097
  let inCycle := (n % 146097).toNat
  let century := min (inCycle / 36524) 3
  let inCentury := inCycle - 36524 * century
  let leapSpan := inCentury / 1461
  let inSpan := inCentury - 1461 * leapSpan
  let year := min (inSpan / 365) 3
  (400 * cycle + (100 * century + 4 * leapSpan + year : Nat) + 1, inSpan - 365 * year)

/-- The date of a day number. -/
def Date.ofNumber (n : Int) : Date :=
  let (y, place) := yearAndPlace n
  let (m, d) := monthAndDay 0 (monthLengths (isLeap y)) place
  ⟨y, m, d⟩

/-! ## §3. Weeks. -/

/-- The weekday of a day number: Monday is 0 and Sunday is 6. -/
def weekday (n : Int) : Nat := (n % 7).toNat

/-- The weekday counted from Sunday, which is 1. -/
def dayOfWeek (n : Int) : Nat := (weekday n + 1) % 7 + 1

/-- The week of the year: weeks start on Monday and belong to the year that
has their Thursday. -/
def weekOfYear (n : Int) : Nat :=
  let thursday := n - weekday n + 3
  1 + (yearAndPlace thursday).2 / 7

/-- The weekday moves on by one every day. -/
theorem dayOfWeek_next (n : Int) : dayOfWeek (n + 1) = dayOfWeek n % 7 + 1 := by
  simp only [dayOfWeek, weekday]; omega

/-- A count within the year one is the place of the day in it. -/
theorem yearAndPlace_first_year (n : Nat) (h : n < 365) : yearAndPlace n = (1, n) := by
  have hc : (n : Int) / 146097 = 0 := by omega
  have hm : ((n : Int) % 146097).toNat = n := by omega
  simp only [yearAndPlace, hc, hm]
  have h₁ : n / 36524 = 0 := by omega
  have h₂ : n / 1461 = 0 := by omega
  have h₃ : n / 365 = 0 := by omega
  simp [h₁, h₂, h₃]

end Recordwise.Calendar
