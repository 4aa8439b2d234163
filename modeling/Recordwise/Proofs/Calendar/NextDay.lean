/-
  Recordwise.Proofs.Calendar.NextDay
  ──────────────────────────────────
  **Going through the calendar day by day.**

  `Date.next` turns the pages of a calendar: the day moves on within its month,
  then the month within its year, then the year.  It knows of no day numbers,
  and so the day numbers, the places in the year, the weekdays and the weeks can
  be held against it.  Main statements:

      number_next         — the day number moves on by one
      ordinal_next        — the place in the year moves on by one or starts anew
      number_later        — the day number so many days later
      weekOfYear_later    — the week of the days from a Monday on, by the place
                            of their Thursday
-/
import Recordwise.Proofs.Calendar.Numbering

namespace Recordwise.Calendar

namespace Date

/-! ## §1. The next day. -/

/-- The day that follows on the calendar. -/
def next (d : Date) : Date :=
  if d.day < daysInMonth d.year d.month then { d with day := d.day + 1 }
  else if d.month < 12 then { d with month := d.month + 1, day := 1 }
  else ⟨d.year + 1, 1, 1⟩

/-- The day so many days later. -/
def later (d : Date) : Nat → Date
  | 0 => d
  | k + 1 => (d.later k).next

variable {d : Date}

theorem one_le_ordinal (h : d.isValid = true) : 1 ≤ d.ordinal := by
  obtain ⟨-, -, day, -⟩ := isValid_iff_bounds.1 h
  unfold ordinal
  omega

end Date

/-- A month begins where the one before it ends. -/
theorem daysBeforeMonth_succ (y : Int) {m : Nat} (low : 1 ≤ m) (high : m ≤ 12) :
    daysBeforeMonth y (m + 1) = daysBeforeMonth y m + daysInMonth y m := by
  have every : ∀ leap : Bool, ∀ k < 12, total ((monthLengths leap).take (k + 1))
      = total ((monthLengths leap).take k) + (monthLengths leap).getD k 0 := by decide
  have here := every (isLeap y) (m - 1) (by omega)
  rw [Nat.sub_add_cancel low] at here
  unfold daysInMonth
  rw [if_neg (by omega)]
  exact here

/-- A year ends with its December. -/
theorem daysBeforeMonth_december (y : Int) :
    daysBeforeMonth y 12 + daysInMonth y 12 = yearLength y := by
  rw [← daysBeforeMonth_succ y (by decide) (by decide), ← total_monthLengths]
  rfl

namespace Date

variable {d : Date}

/-- The three ways in which a day moves on. -/
theorem next_cases (h : d.isValid = true) :
    (d.day < daysInMonth d.year d.month ∧ d.next = ⟨d.year, d.month, d.day + 1⟩) ∨
      (d.day = daysInMonth d.year d.month ∧ d.month < 12 ∧
        d.next = ⟨d.year, d.month + 1, 1⟩) ∨
      (d.day = daysInMonth d.year 12 ∧ d.month = 12 ∧ d.next = ⟨d.year + 1, 1, 1⟩) := by
  obtain ⟨-, december, -, last⟩ := isValid_iff_bounds.1 h
  by_cases within : d.day < daysInMonth d.year d.month
  · exact .inl ⟨within, if_pos within⟩
  · by_cases before : d.month < 12
    · exact .inr (.inl ⟨by omega, before, by rw [next, if_neg within, if_pos before]⟩)
    · have twelve : d.month = 12 := by omega
      rw [twelve] at within last
      refine .inr (.inr ⟨by omega, twelve, ?_⟩)
      rw [next, twelve, if_neg within, if_neg (Nat.lt_irrefl 12)]

/-- The calendar has the next day. -/
theorem isValid_next (h : d.isValid = true) : d.next.isValid = true := by
  obtain ⟨first, december, -, -⟩ := isValid_iff_bounds.1 h
  rw [isValid_iff_bounds]
  obtain ⟨within, same⟩ | ⟨-, before, same⟩ | ⟨-, -, same⟩ := next_cases h
  · rw [same]
    exact ⟨first, december, Nat.succ_pos _, within⟩
  · rw [same]
    exact ⟨Nat.succ_pos _, before, Nat.le_refl 1, one_le_daysInMonth _ (Nat.succ_pos _) before⟩
  · rw [same]
    have january : 1 ≤ 12 := by decide
    exact ⟨Nat.le_refl 1, january, Nat.le_refl 1, one_le_daysInMonth _ (Nat.le_refl 1) january⟩

/-- **The place in the year moves on by one or starts anew**, and it starts
anew on the first of January. -/
theorem ordinal_next (h : d.isValid = true) :
    (d.next.month = 1 ∧ d.next.day = 1 ∧ d.next.ordinal = 1 ∧ d.next.year = d.year + 1 ∧
        d.ordinal = yearLength d.year) ∨
      (¬ (d.next.month = 1 ∧ d.next.day = 1) ∧ d.next.ordinal = d.ordinal + 1 ∧
        d.next.year = d.year) := by
  obtain ⟨first, december, day, -⟩ := isValid_iff_bounds.1 h
  obtain ⟨-, same⟩ | ⟨last, before, same⟩ | ⟨last, twelve, same⟩ := next_cases h
  · rw [same]
    refine .inr ⟨fun newYear => ?_, rfl, rfl⟩
    have : d.day + 1 = 1 := newYear.2
    omega
  · rw [same]
    refine .inr ⟨fun newYear => ?_, ?_, rfl⟩
    · have : d.month + 1 = 1 := newYear.1
      omega
    · show daysBeforeMonth d.year (d.month + 1) + 1 = daysBeforeMonth d.year d.month + d.day + 1
      rw [daysBeforeMonth_succ _ first december, last]
  · rw [same]
    refine .inl ⟨rfl, rfl, rfl, rfl, ?_⟩
    unfold ordinal
    rw [twelve, last, daysBeforeMonth_december]

/-- **The day number moves on by one.** -/
theorem number_next (h : d.isValid = true) : d.next.number = d.number + 1 := by
  unfold number
  obtain ⟨-, -, first, year, last⟩ | ⟨-, moved, year⟩ := ordinal_next h
  · rw [first, year, last, daysBeforeYear_succ]
    omega
  · rw [moved, year]
    omega

/-! ## §2. Days later. -/

theorem isValid_later (h : d.isValid = true) (k : Nat) : (d.later k).isValid = true := by
  induction k with
  | zero => exact h
  | succ k ih => exact isValid_next ih

/-- The day number so many days later. -/
theorem number_later (h : d.isValid = true) (k : Nat) : (d.later k).number = d.number + k := by
  induction k with
  | zero => exact (Int.add_zero _).symm
  | succ k ih =>
      show (d.later k).next.number = _
      rw [number_next (isValid_later h k), ih]
      omega

/-- A date is told by its day number. -/
theorem eq_of_number_eq {e : Date} (h : d.isValid = true) (h' : e.isValid = true)
    (same : d.number = e.number) : d = e := by
  rw [← ofNumber_number h, same, ofNumber_number h']

/-! ## §3. Weeks. -/

/-- Every day is at most six days after a Monday. -/
theorem exists_monday (h : d.isValid = true) : ∃ monday : Date, ∃ k, monday.isValid = true ∧
    weekday monday.number = 0 ∧ k < 7 ∧ monday.later k = d := by
  have valid := isValid_ofNumber (d.number - weekday d.number)
  have number := number_ofNumber (d.number - weekday d.number)
  refine ⟨ofNumber (d.number - weekday d.number), weekday d.number, valid, ?_, ?_, ?_⟩
  · rw [number]
    unfold weekday
    omega
  · unfold weekday
    omega
  · apply eq_of_number_eq (isValid_later valid _) h
    rw [number_later valid, number]
    omega

/-- A place in the year is counted from the first day of the year. -/
theorem ordinal_eq_place (h : d.isValid = true) : d.ordinal = (yearAndPlace d.number).2 + 1 := by
  have year : (yearAndPlace d.number).1 = d.year := congrArg Date.year (ofNumber_number h)
  obtain ⟨whole, -⟩ := yearAndPlace_spec d.number
  have first := one_le_ordinal h
  rw [year] at whole
  unfold number at whole ⊢
  omega

/-- **The week of the days from a Monday on**, by the place of their Thursday
in its year. -/
theorem weekOfYear_later {monday : Date} (h : monday.isValid = true)
    (weekday_monday : weekday monday.number = 0) {k : Nat} (inWeek : k < 7) :
    weekOfYear (monday.later k).number = 1 + ((monday.later 3).ordinal - 1) / 7 := by
  have since : (monday.later k).number - weekday (monday.later k).number + 3
      = (monday.later 3).number := by
    rw [number_later h, number_later h]
    unfold weekday at weekday_monday ⊢
    omega
  unfold weekOfYear
  rw [since, ordinal_eq_place (isValid_later h 3), Nat.add_sub_cancel]

end Date

end Recordwise.Calendar
