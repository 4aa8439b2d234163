/-
  Recordwise.Proofs.Functions.CalendarParts
  ─────────────────────────────────────────
  **The functions that read a date off a text agree on the calendar.**

  Each part of a date is a number of its own: the weekday counts all days, the
  place in the year and the week count the days and the Thursdays of one year.
  On the texts of one day and of the next they move together, as the pages of a
  calendar do.  Main statements:

      exists_isTextOf           — every day of the years 0 to 9999 has a text
      shows_iff                 — what a function shows on a text
      weekday_moves_on          — weekdays on a day and on the next
      place_moves_on            — places in the year on a day and on the next
      week_of_thursday          — weeks, by the place of their Thursday
      parts_follow_calendar     — all of this, in every zone
-/
import Recordwise.Proofs.Calendar.NextDay
import Recordwise.Proofs.Functions.DateNormalization

namespace Recordwise.Functions

open Calendar
open DatePattern (IsWritable)

/-! ## §1. Days and their texts. -/

/-- A value that the default formats read as some time on a day. -/
def IsTextOf (zone : Zone) (v : Value) (d : Date) : Prop :=
  ∃ text t, v.text? = some text ∧ readDefault? (Context.ofZone zone) text = some t ∧ t.toDate = d

/-- A part of a date is shown as a number on a value. -/
def Shows (zone : Zone) (v : Value) (part : DatePart) (x : Int) : Prop :=
  ∃ n : Int64, Builtin.call (Context.ofZone zone) part.function [v] = pure (.integer n) ∧
    n.toInt = x

variable {zone : Zone} {v w : Value} {d : Date}

/-- What has a text is a day of the years that four digits write. -/
theorem IsTextOf.isValid (given : IsTextOf zone v d) :
    d.isValid = true ∧ 0 ≤ d.year ∧ d.year ≤ 9999 := by
  obtain ⟨text, t, -, read, rfl⟩ := given
  have shown : readDefault "to_date" (Context.ofZone zone) text = .ok t :=
    readDefault_eq_ok_iff.2 read
  obtain ⟨valid, years⟩ := isWritable_of_readDefault shown
  exact ⟨(LocalTime.isValid_iff_parts.1 valid).1, years⟩

/-- **Every day of those years has a text**, the one that `to_date` writes. -/
theorem exists_isTextOf (zone : Zone) (h : d.isValid = true) (low : 0 ≤ d.year)
    (high : d.year ≤ 9999) : ∃ v, IsTextOf zone v d := by
  have midnight : (⟨d, 0, 0, 0⟩ : LocalTime).isValid = true :=
    LocalTime.isValid_iff_parts.2 ⟨h, rfl⟩
  have read := readDefault_dateText "to_date" zone ⟨midnight, low, high⟩
  exact ⟨.text (String.ofList d.text), String.ofList d.text, ⟨d, 0, 0, 0⟩, rfl,
    readDefault_eq_ok_iff.1 read, rfl⟩

/-! ## §2. What the functions show. -/

/-- The parts of what can be written are small numbers. -/
theorem DatePart.read_bounds (part : DatePart) {t : LocalTime} (h : IsWritable t) :
    0 ≤ part.read t ∧ part.read t ≤ 9999 := by
  obtain ⟨valid, low, high⟩ := h
  obtain ⟨month, day, hour, minute, second⟩ := DatePattern.field_lt valid
  have small {n : Nat} (bound : n ≤ 9999) : 0 ≤ (n : Int) ∧ (n : Int) ≤ 9999 := by omega
  -- a place in a year is less than 366, whichever year it is
  have place (n : Int) : (yearAndPlace n).2 < 366 := by
    obtain ⟨-, bound⟩ := yearAndPlace_spec n
    have := yearLength_eq (yearAndPlace n).1
    omega
  cases part with
  | year => exact ⟨low, high⟩
  | quarter => exact small (n := (t.month - 1) / 3 + 1) (by omega)
  | month => exact small (by omega)
  | week =>
    have thursday := place (t.toDate.number - weekday t.toDate.number + 3)
    exact small (n := weekOfYear t.toDate.number) (by unfold weekOfYear; dsimp only; omega)
  | dayOfYear =>
    have here := place t.toDate.number
    have same := Date.ordinal_eq_place (LocalTime.isValid_iff_parts.1 valid).1
    exact small (n := t.toDate.ordinal) (by omega)
  | dayOfMonth => exact small (by omega)
  | dayOfWeek =>
    exact small (n := Calendar.dayOfWeek t.toDate.number) (by unfold Calendar.dayOfWeek; omega)
  | hour | minute | second => exact small (by omega)

/-- **What a function shows on a text**: the part of what the formats read,
whole. -/
theorem shows_iff {part : DatePart} {text : String} {t : LocalTime} {x : Int}
    (given : v.text? = some text) (read : readDefault? (Context.ofZone zone) text = some t) :
    Shows zone v part x ↔ part.read t = x := by
  have shown : readDefault part.function (Context.ofZone zone) text = .ok t :=
    readDefault_eq_ok_iff.2 read
  have whole : (Int64.ofInt (part.read t)).toInt = part.read t := by
    have bounds := part.read_bounds (isWritable_of_readDefault shown)
    exact Int64.toInt_ofInt_of_le (by omega) (by omega)
  unfold Shows
  rw [Builtin.call_part, datePart_of_read part given shown]
  constructor
  · rintro ⟨n, answer, rfl⟩
    obtain rfl := Value.integer.inj (Except.ok.inj (Eval.ofExcept_eq_pure_iff.1 answer))
    exact whole.symm
  · rintro rfl
    exact ⟨_, rfl, whole⟩

/-! ## §3. From day to day. -/

/-- **The weekday moves on in turn.** -/
theorem weekday_moves_on (today : IsTextOf zone v d) (tomorrow : IsTextOf zone w d.next) :
    ∃ x : Int, Shows zone v .dayOfWeek x ∧ Shows zone w .dayOfWeek (x % 7 + 1) := by
  have moves := dayOfWeek_next d.number
  rw [← Date.number_next today.isValid.1] at moves
  obtain ⟨text, t, given, read, rfl⟩ := today
  obtain ⟨text', t', given', read', same⟩ := tomorrow
  rw [← same] at moves
  refine ⟨_, (shows_iff given read).2 rfl, (shows_iff given' read').2 ?_⟩
  show (Calendar.dayOfWeek t'.toDate.number : Int)
    = (Calendar.dayOfWeek t.toDate.number : Int) % 7 + 1
  omega

/-- **The place in the year moves on by one**, except to the first of January,
where it is 1, and it is 1 nowhere else. -/
theorem place_moves_on (today : IsTextOf zone v d) (tomorrow : IsTextOf zone w d.next) :
    ∃ place place' month day : Int, Shows zone v .dayOfYear place ∧
      Shows zone w .dayOfYear place' ∧ Shows zone w .month month ∧
      Shows zone w .dayOfMonth day ∧ (place' = 1 ↔ month = 1 ∧ day = 1) ∧
      (place' ≠ 1 → place' = place + 1) := by
  have first := Date.one_le_ordinal today.isValid.1
  have moves := Date.ordinal_next today.isValid.1
  obtain ⟨text, t, given, read, rfl⟩ := today
  obtain ⟨text', t', given', read', same⟩ := tomorrow
  rw [← same] at moves
  refine ⟨_, _, _, _, (shows_iff given read).2 rfl, (shows_iff given' read').2 rfl,
    (shows_iff given' read').2 rfl, (shows_iff given' read').2 rfl, ?_⟩
  show ((t'.toDate.ordinal : Int) = 1 ↔ (t'.month : Int) = 1 ∧ (t'.day : Int) = 1) ∧
    ((t'.toDate.ordinal : Int) ≠ 1 → (t'.toDate.ordinal : Int) = t.toDate.ordinal + 1)
  omega

/-- 2021-01-03 is a Sunday. -/
theorem sunday_shown (given : IsTextOf zone v ⟨2021, 1, 3⟩) : Shows zone v .dayOfWeek 1 := by
  obtain ⟨text, t, given, read, same⟩ := given
  refine (shows_iff given read).2 ?_
  show (Calendar.dayOfWeek t.toDate.number : Int) = 1
  rw [same]
  decide

/-- Three days after a Monday the weekday is that of Thursdays. -/
theorem thursday_iff {monday : Date} (h : monday.isValid = true)
    (thursday : IsTextOf zone w (monday.later 3)) :
    Shows zone w .dayOfWeek 5 ↔ weekday monday.number = 0 := by
  obtain ⟨text, t, given, read, same⟩ := thursday
  rw [shows_iff given read]
  show (Calendar.dayOfWeek t.toDate.number : Int) = 5 ↔ _
  rw [same, Date.number_later h]
  unfold Calendar.dayOfWeek weekday
  omega

/-- Every day is one of the seven days of a week that has its Thursday on the
fourth. -/
theorem exists_week (zone : Zone) (h : d.isValid = true) : ∃ monday : Date, ∃ k,
    monday.isValid = true ∧ k < 7 ∧ monday.later k = d ∧
      ∀ w, IsTextOf zone w (monday.later 3) → Shows zone w .dayOfWeek 5 := by
  obtain ⟨monday, k, valid, begins, inWeek, same⟩ := Date.exists_monday h
  exact ⟨monday, k, valid, inWeek, same, fun w thursday => (thursday_iff valid thursday).2 begins⟩

/-- **The week is told by the place in the year of its Thursday.** -/
theorem week_of_thursday {monday : Date} {k : Nat} (h : monday.isValid = true) (inWeek : k < 7)
    (today : IsTextOf zone v (monday.later k)) (thursday : IsTextOf zone w (monday.later 3))
    (weekday : Shows zone w .dayOfWeek 5) :
    ∃ place : Int, Shows zone w .dayOfYear place ∧ Shows zone v .week (1 + (place - 1) / 7) := by
  have begins := (thursday_iff h thursday).1 weekday
  have first := Date.one_le_ordinal (Date.isValid_later h 3)
  have week := Date.weekOfYear_later h begins inWeek
  obtain ⟨text, t, given, read, same⟩ := today
  obtain ⟨text', t', given', read', same'⟩ := thursday
  rw [← same'] at week first
  rw [← same] at week
  refine ⟨_, (shows_iff given' read').2 rfl, (shows_iff given read).2 ?_⟩
  show (weekOfYear t.toDate.number : Int) = 1 + ((t'.toDate.ordinal : Int) - 1) / 7
  omega

/-- The functions on dates go with the calendar, on every text that the
default formats read. -/
structure FollowCalendar (zone : Zone) : Prop where
  /-- Every day of the years 0 to 9999 has a text. -/
  hasText (d : Date) : d.isValid = true → 0 ≤ d.year → d.year ≤ 9999 → ∃ v, IsTextOf zone v d
  /-- The weekday moves on in turn. -/
  weekdayNext (v w : Value) (d : Date) : IsTextOf zone v d → IsTextOf zone w d.next →
    ∃ x : Int, Shows zone v .dayOfWeek x ∧ Shows zone w .dayOfWeek (x % 7 + 1)
  /-- 2021-01-03 is a Sunday. -/
  sunday (v : Value) : IsTextOf zone v ⟨2021, 1, 3⟩ → Shows zone v .dayOfWeek 1
  /-- The place in the year is 1 on the first of January and otherwise moves on
  by one. -/
  placeNext (v w : Value) (d : Date) : IsTextOf zone v d → IsTextOf zone w d.next →
    ∃ place place' month day : Int, Shows zone v .dayOfYear place ∧
      Shows zone w .dayOfYear place' ∧ Shows zone w .month month ∧
      Shows zone w .dayOfMonth day ∧ (place' = 1 ↔ month = 1 ∧ day = 1) ∧
      (place' ≠ 1 → place' = place + 1)
  /-- Every day is one of the seven days from a Monday on. -/
  inWeek (d : Date) : d.isValid = true → ∃ monday : Date, ∃ k, monday.isValid = true ∧ k < 7 ∧
    monday.later k = d ∧ ∀ w, IsTextOf zone w (monday.later 3) → Shows zone w .dayOfWeek 5
  /-- The week of such a day is told by the place in the year of the
  Thursday. -/
  week (monday : Date) (k : Nat) (v w : Value) : monday.isValid = true → k < 7 →
    IsTextOf zone v (monday.later k) → IsTextOf zone w (monday.later 3) →
    Shows zone w .dayOfWeek 5 →
    ∃ place : Int, Shows zone w .dayOfYear place ∧ Shows zone v .week (1 + (place - 1) / 7)

/-- **The functions on dates go with the calendar**, in every zone. -/
theorem parts_follow_calendar (zone : Zone) : FollowCalendar zone where
  hasText _ valid low high := exists_isTextOf zone valid low high
  weekdayNext _ _ _ today tomorrow := weekday_moves_on today tomorrow
  sunday _ given := sunday_shown given
  placeNext _ _ _ today tomorrow := place_moves_on today tomorrow
  inWeek _ valid := exists_week zone valid
  week _ _ _ _ valid inWeek today thursday weekday :=
    week_of_thursday valid inWeek today thursday weekday

/-- The turn of 2020: a year of 366 days ends on a Thursday, and its last week
reaches into the next year. -/
theorem parts_follow_calendar_new_year :
    IsTextOf Zone.utc (.text "2020/12/31") ⟨2020, 12, 31⟩ ∧
      IsTextOf Zone.utc (.text "20210101") (Date.next ⟨2020, 12, 31⟩) ∧
      (∃ x : Int, Shows Zone.utc (.text "2020/12/31") .dayOfWeek x ∧
        Shows Zone.utc (.text "20210101") .dayOfWeek (x % 7 + 1)) ∧
      ∃ place : Int, Shows Zone.utc (.text "2020/12/31") .dayOfYear place ∧
        Shows Zone.utc (.text " 2021-01-03 ") .week (1 + (place - 1) / 7) := by
  have last : readDefault? (Context.ofZone Zone.utc) "2020/12/31"
      = some ⟨⟨2020, 12, 31⟩, 0, 0, 0⟩ := by rfl
  have thursday : IsTextOf Zone.utc (.text "2020/12/31") ⟨2020, 12, 31⟩ :=
    ⟨_, _, rfl, last, rfl⟩
  have friday : IsTextOf Zone.utc (.text "20210101") (Date.next ⟨2020, 12, 31⟩) :=
    ⟨_, ⟨⟨2021, 1, 1⟩, 0, 0, 0⟩, rfl, rfl, rfl⟩
  have sunday : IsTextOf Zone.utc (.text " 2021-01-03 ") (Date.later ⟨2020, 12, 28⟩ 6) :=
    ⟨_, ⟨⟨2021, 1, 3⟩, 0, 0, 0⟩, rfl, rfl, rfl⟩
  have fifth : Shows Zone.utc (.text "2020/12/31") .dayOfWeek 5 :=
    (shows_iff (v := .text "2020/12/31") rfl last).2 (by decide)
  have follows := parts_follow_calendar Zone.utc
  exact ⟨thursday, friday, follows.weekdayNext _ _ _ thursday friday,
    follows.week ⟨2020, 12, 28⟩ 6 _ _ (by decide) (by decide) sunday thursday fifth⟩

end Recordwise.Functions
