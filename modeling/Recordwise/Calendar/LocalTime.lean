/-
  Recordwise.Calendar.LocalTime
  ─────────────────────────────
  **A day and a time of day, in no particular zone.**

  `LocalTime.seconds` counts the seconds from 1970-01-01 00:00:00 on the same
  clock, `LocalTime.ofSeconds` reads a count back.  Main
  statements:

      ofSeconds_zero        — the count starts at 1970-01-01 00:00:00
      isClockTime_ofSeconds — a count reads back to a time that clocks show
-/
import Recordwise.Calendar.Date

namespace Recordwise.Calendar

/-! ## §1. Local times. -/

/-- A day and a time of day. -/
structure LocalTime extends Date where
  /-- The hour, from 0 to 23. -/
  hour : Nat
  /-- The minute, from 0 to 59. -/
  minute : Nat
  /-- The second, from 0 to 59. -/
  second : Nat
  deriving Repr, DecidableEq

/-- The number of the day 1970-01-01. -/
def epochDay : Int := 719162

namespace LocalTime

/-- Whether a clock shows the time of day. -/
def isClockTime (hour minute second : Nat) : Bool := hour < 24 && minute < 60 && second < 60

/-- Whether the calendar has the day and a clock shows the time. -/
def isValid (t : LocalTime) : Bool :=
  t.toDate.isValid && isClockTime t.hour t.minute t.second

/-- The seconds from 1970-01-01 00:00:00 on the same clock. -/
def seconds (t : LocalTime) : Int :=
  (t.toDate.number - epochDay) * 86400 + (t.hour * 3600 + t.minute * 60 + t.second : Nat)

/-- The local time at a count of seconds from 1970-01-01 00:00:00. -/
def ofSeconds (s : Int) : LocalTime :=
  let clock := (s % 86400).toNat
  { toDate := Date.ofNumber (s / 86400 + epochDay)
    hour := clock / 3600
    minute := clock / 60 % 60
    second := clock % 60 }

theorem ofSeconds_zero : ofSeconds 0 = ⟨⟨1970, 1, 1⟩, 0, 0, 0⟩ := by decide

/-- A count reads back to a time of day that clocks show. -/
theorem isClockTime_ofSeconds (s : Int) :
    isClockTime (ofSeconds s).hour (ofSeconds s).minute (ofSeconds s).second = true := by
  have day : (s % 86400).toNat < 86400 := by omega
  have clock : ∀ n : Nat, n < 86400 → isClockTime (n / 3600) (n / 60 % 60) (n % 60) = true := by
    intro n h
    simp only [isClockTime, Bool.and_eq_true, decide_eq_true_eq]
    omega
  exact clock _ day

end LocalTime

/-! ## §2. Text. -/

/-- The digits of a number, with zeros in front up to a width. -/
def padded (width n : Nat) : List Char :=
  let ds := Nat.toDigits 10 n
  List.replicate (width - ds.length) '0' ++ ds

/-- An integer in a width that a minus sign counts toward. -/
def paddedInt (width : Nat) (i : Int) : List Char :=
  if i < 0 then '-' :: padded (width - 1) i.natAbs else padded width i.natAbs

/-- A year in four digits, or with its sign outside the years 0 to 9999. -/
def yearText (y : Int) : List Char :=
  if y < 0 then '-' :: padded 4 y.natAbs
  else if y > 9999 then '+' :: padded 4 y.natAbs
  else padded 4 y.natAbs

/-- The date as `YYYY-MM-DD`. -/
def Date.text (d : Date) : List Char :=
  yearText d.year ++ '-' :: padded 2 d.month ++ '-' :: padded 2 d.day

/-- The local time as `YYYY-MM-DD HH:MM:SS`. -/
def LocalTime.text (t : LocalTime) : List Char :=
  t.toDate.text ++ ' ' :: padded 2 t.hour ++ ':' :: padded 2 t.minute ++ ':' :: padded 2 t.second

end Recordwise.Calendar
