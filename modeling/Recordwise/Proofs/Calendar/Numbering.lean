/-
  Recordwise.Proofs.Calendar.Numbering
  ────────────────────────────────────
  **Dates and day numbers correspond one to one.**

  A day number is a year and a place in it, a place in a year is a month and a
  day of it, and each of the two decompositions is the only one.  The same
  holds of local times and counts of seconds.  Main statements:

      yearAndPlace_spec   — the year and the place of a day number
      number_ofNumber     — a day number is that of its date
      ofNumber_number     — a date is that of its day number
      seconds_ofSeconds   — a count of seconds is that of its local time
      ofSeconds_seconds   — a local time is that of its count of seconds
      year_ofSeconds_iff  — the years from some year on, by the counts of seconds
-/
import Recordwise.Calendar.LocalTime

namespace Recordwise.Calendar

/-! ## §1. Years. -/

/-- The days of a year. -/
def yearLength (y : Int) : Nat := if isLeap y then 366 else 365

theorem isLeap_iff (y : Int) : isLeap y = true ↔ y % 4 = 0 ∧ (y % 100 ≠ 0 ∨ y % 400 = 0) := by
  simp only [isLeap, Bool.and_eq_true, Bool.or_eq_true, beq_iff_eq, bne_iff_ne]

theorem yearLength_eq (y : Int) :
    yearLength y = 366 ∧ (y % 4 = 0 ∧ (y % 100 ≠ 0 ∨ y % 400 = 0)) ∨
      yearLength y = 365 ∧ ¬ (y % 4 = 0 ∧ (y % 100 ≠ 0 ∨ y % 400 = 0)) := by
  unfold yearLength
  by_cases h : isLeap y = true
  · left
    rw [if_pos h]
    exact ⟨rfl, (isLeap_iff y).1 h⟩
  · right
    rw [if_neg h]
    exact ⟨rfl, fun leap => h ((isLeap_iff y).2 leap)⟩

theorem daysBeforeYear_eq (y : Int) :
    daysBeforeYear y = 365 * (y - 1) + (y - 1) / 4 - (y - 1) / 100 + (y - 1) / 400 := rfl

/-- A year ends where the next one begins. -/
theorem daysBeforeYear_succ (y : Int) :
    daysBeforeYear (y + 1) = daysBeforeYear y + yearLength y := by
  rw [daysBeforeYear_eq, daysBeforeYear_eq]
  rcases yearLength_eq y with ⟨h, leap⟩ | ⟨h, leap⟩
  · rw [h]
    omega
  · rw [h]
    omega

/-- Later years begin after a year has ended. -/
theorem daysBeforeYear_le {y z : Int} (h : y < z) :
    daysBeforeYear y + yearLength y ≤ daysBeforeYear z := by
  rw [← daysBeforeYear_succ, daysBeforeYear_eq, daysBeforeYear_eq]
  omega

/-- A day lies in one year only. -/
theorem year_unique {y z : Int} {p q : Nat} (hp : p < yearLength y) (hq : q < yearLength z)
    (h : daysBeforeYear y + p = daysBeforeYear z + q) : y = z ∧ p = q := by
  have same : y = z := by
    rcases Int.lt_trichotomy y z with lt | eq | gt
    · have := daysBeforeYear_le lt
      omega
    · exact eq
    · have := daysBeforeYear_le gt
      omega
  subst same
  exact ⟨rfl, by omega⟩

/-- **The year and the place of a day number.** -/
theorem yearAndPlace_spec (n : Int) :
    daysBeforeYear (yearAndPlace n).1 + (yearAndPlace n).2 = n ∧
      (yearAndPlace n).2 < yearLength (yearAndPlace n).1 := by
  -- the four counts of the cycle, named as in the definition
  obtain ⟨cycle, hcycle⟩ : ∃ c, c = n / 146097 := ⟨_, rfl⟩
  obtain ⟨inCycle, hinCycle⟩ : ∃ r : Nat, r = (n % 146097).toNat := ⟨_, rfl⟩
  obtain ⟨century, hcentury⟩ : ∃ c, c = min (inCycle / 36524) 3 := ⟨_, rfl⟩
  obtain ⟨inCentury, hinCentury⟩ : ∃ r, r = inCycle - 36524 * century := ⟨_, rfl⟩
  obtain ⟨span, hspan⟩ : ∃ s, s = inCentury / 1461 := ⟨_, rfl⟩
  obtain ⟨inSpan, hinSpan⟩ : ∃ r, r = inCentury - 1461 * span := ⟨_, rfl⟩
  obtain ⟨year, hyear⟩ : ∃ y, y = min (inSpan / 365) 3 := ⟨_, rfl⟩
  have split : yearAndPlace n =
      (400 * cycle + (100 * century + 4 * span + year : Nat) + 1, inSpan - 365 * year) := by
    subst hyear hinSpan hspan hinCentury hcentury hinCycle hcycle
    rfl
  rw [split]
  show daysBeforeYear (400 * cycle + (100 * century + 4 * span + year : Nat) + 1)
      + ((inSpan - 365 * year : Nat) : Int) = n
    ∧ inSpan - 365 * year < yearLength (400 * cycle + (100 * century + 4 * span + year : Nat) + 1)
  -- each count is bounded before the next one is taken from what it leaves
  have inCycleBound : inCycle < 146097 := by omega
  have whole : n = 146097 * cycle + inCycle := by omega
  have centuryBound : century ≤ 3 := by omega
  have inCenturyBound : inCentury < 36525 ∧ (century < 3 → inCentury < 36524) := by omega
  have spanBound : span ≤ 24 := by omega
  have inSpanBound : inSpan < 1461 ∧ inCentury = 1461 * span + inSpan := by omega
  have yearBound : year ≤ 3 ∧ 365 * year ≤ inSpan := by omega
  constructor
  · have before : 400 * cycle + ((100 * century + 4 * span + year : Nat) : Int) + 1 - 1
        = 400 * cycle + 100 * century + 4 * span + year := by omega
    have fours : (400 * cycle + 100 * century + 4 * span + year) / 4
        = 100 * cycle + 25 * century + span := by omega
    have hundreds : (400 * cycle + 100 * century + 4 * span + year) / 100
        = 4 * cycle + century := by omega
    have cycles : (400 * cycle + 100 * century + 4 * span + year) / 400 = cycle := by omega
    rw [daysBeforeYear_eq, before, fours, hundreds, cycles]
    omega
  · rcases yearLength_eq (400 * cycle + (100 * century + 4 * span + year : Nat) + 1) with
      ⟨h, leap⟩ | ⟨h, leap⟩
    · rw [h]
      omega
    · rw [h]
      omega

/-! ## §2. Months. -/

/-- The sum of lengths. -/
def total (lens : List Nat) : Nat := lens.foldl (· + ·) 0

theorem foldl_add_eq (lens : List Nat) (n : Nat) :
    lens.foldl (· + ·) n = n + lens.foldl (· + ·) 0 := by
  induction lens generalizing n with
  | nil => rfl
  | cons len lens ih =>
      rw [List.foldl_cons, List.foldl_cons, ih, ih (0 + len)]
      omega

theorem total_cons (len : Nat) (lens : List Nat) : total (len :: lens) = len + total lens := by
  unfold total
  rw [List.foldl_cons, foldl_add_eq, Nat.zero_add]

/-- The month and the day at a place that is so many whole months and days
away. -/
theorem monthAndDay_eq (lens : List Nat) (m k d : Nat) (hd : d < lens.getD k 0) :
    monthAndDay m lens (total (lens.take k) + d) = (m + k + 1, d + 1) := by
  induction lens generalizing m k with
  | nil =>
      rw [List.getD_nil] at hd
      exact absurd hd (Nat.not_lt_zero d)
  | cons len lens ih =>
      cases k with
      | zero =>
          -- the place lies in the first month, which may be the only one
          have first : d < len := hd
          rw [List.take_zero]
          show monthAndDay m (len :: lens) (0 + d) = _
          rw [Nat.zero_add]
          cases lens with
          | nil => rfl
          | cons next lens =>
              rw [monthAndDay, if_pos first]
              exact List.cons_ne_nil next lens
      | succ k =>
          have later : d < lens.getD k 0 := hd
          rw [List.take_succ_cons, total_cons]
          cases lens with
          | nil =>
              rw [List.getD_nil] at later
              exact absurd later (Nat.not_lt_zero d)
          | cons next lens =>
              -- the first month is over, and the rest is counted from the next
              have behind := ih (m + 1) k later
              have away : len + total ((next :: lens).take k) + d - len =
                  total ((next :: lens).take k) + d := by omega
              rw [monthAndDay, if_neg (by omega), away, behind]
              · rw [Nat.add_right_comm m 1 k]
                rfl
              · exact List.cons_ne_nil next lens

/-- Every place within the total lies in some month. -/
theorem exists_month (lens : List Nat) (n : Nat) (h : n < total lens) :
    ∃ k d, k < lens.length ∧ d < lens.getD k 0 ∧ n = total (lens.take k) + d := by
  induction lens generalizing n with
  | nil => exact absurd h (Nat.not_lt_zero n)
  | cons len lens ih =>
      rw [total_cons] at h
      by_cases first : n < len
      · exact ⟨0, n, Nat.succ_pos _, first, (Nat.zero_add n).symm⟩
      · obtain ⟨k, d, hk, hd, hn⟩ := ih (n - len) (by omega)
        refine ⟨k + 1, d, Nat.succ_lt_succ hk, hd, ?_⟩
        rw [List.take_succ_cons, total_cons]
        omega

/-- Whole months and days of the next month stay within the total. -/
theorem total_take_add_lt {lens : List Nat} {k d : Nat} (hd : d < lens.getD k 0) :
    total (lens.take k) + d < total lens := by
  induction lens generalizing k with
  | nil =>
      rw [List.getD_nil] at hd
      exact absurd hd (Nat.not_lt_zero d)
  | cons len lens ih =>
      rw [total_cons]
      cases k with
      | zero =>
          have first : d < len := hd
          show 0 + d < _
          omega
      | succ k =>
          have later : d < lens.getD k 0 := hd
          have behind := ih later
          rw [List.take_succ_cons, total_cons]
          omega

/-- The months fill the year. -/
theorem total_monthLengths (y : Int) : total (monthLengths (isLeap y)) = yearLength y := by
  unfold yearLength
  cases isLeap y <;> rfl

/-- Months have 31 days at most. -/
theorem daysInMonth_le (y : Int) {m : Nat} (h : m ≤ 12) : daysInMonth y m ≤ 31 := by
  have days : ∀ (leap : Bool) (k : Nat), k < 12 → (monthLengths leap).getD k 0 ≤ 31 := by decide
  unfold daysInMonth
  split
  · omega
  · exact days (isLeap y) (m - 1) (by omega)

/-- Every month has a first day. -/
theorem one_le_daysInMonth (y : Int) {m : Nat} (first : 1 ≤ m) (last : m ≤ 12) :
    1 ≤ daysInMonth y m := by
  have days : ∀ (leap : Bool) (k : Nat), k < 12 → 1 ≤ (monthLengths leap).getD k 0 := by decide
  unfold daysInMonth
  rw [if_neg (by omega)]
  exact days (isLeap y) (m - 1) (by omega)

/-! ## §3. Dates. -/

namespace Date

/-- A date that the calendar has. -/
theorem isValid_iff_bounds {d : Date} : d.isValid = true ↔
    1 ≤ d.month ∧ d.month ≤ 12 ∧ 1 ≤ d.day ∧ d.day ≤ daysInMonth d.year d.month := by
  simp only [isValid, Bool.and_eq_true, decide_eq_true_eq, and_assoc]

/-- A date that the calendar has, by the months and days that are over. -/
theorem isValid_iff (y : Int) (k d : Nat) :
    isValid ⟨y, k + 1, d + 1⟩ = true ↔ d < (monthLengths (isLeap y)).getD k 0 := by
  have inMonth : daysInMonth y (k + 1) = (monthLengths (isLeap y)).getD k 0 := by
    unfold daysInMonth
    rw [if_neg (Nat.succ_ne_zero k), Nat.add_sub_cancel]
  have length : (monthLengths (isLeap y)).length = 12 := rfl
  rw [isValid_iff_bounds]
  dsimp only
  rw [inMonth]
  constructor
  · intro h
    omega
  · intro h
    rcases Nat.lt_or_ge k 12 with month | beyond
    · omega
    · rw [List.getD_eq_getElem?_getD, List.getElem?_eq_none (by omega)] at h
      exact absurd h (Nat.not_lt_zero d)

theorem number_eq (y : Int) (k d : Nat) :
    number ⟨y, k + 1, d + 1⟩
      = daysBeforeYear y + (total ((monthLengths (isLeap y)).take k) + d : Nat) := by
  show daysBeforeYear y
      + ((total ((monthLengths (isLeap y)).take (k + 1 - 1)) + (d + 1) : Nat) : Int) - 1 = _
  rw [Nat.add_sub_cancel]
  omega

/-- The date of a day number, by the months and days that are over. -/
theorem ofNumber_eq {y : Int} {k d : Nat} (hd : d < (monthLengths (isLeap y)).getD k 0) :
    ofNumber (number ⟨y, k + 1, d + 1⟩) = ⟨y, k + 1, d + 1⟩ := by
  obtain ⟨place, hplace⟩ : ∃ p, p = total ((monthLengths (isLeap y)).take k) + d := ⟨_, rfl⟩
  have inYear : place < yearLength y := by
    have := total_take_add_lt hd
    rw [total_monthLengths] at this
    omega
  have found : yearAndPlace (number ⟨y, k + 1, d + 1⟩) = (y, place) := by
    obtain ⟨whole, bound⟩ := yearAndPlace_spec (number ⟨y, k + 1, d + 1⟩)
    rw [number_eq, ← hplace] at whole bound ⊢
    obtain ⟨year, rest⟩ := year_unique bound inYear whole
    exact Prod.ext year rest
  unfold ofNumber
  rw [found]
  show (⟨y, (monthAndDay 0 (monthLengths (isLeap y)) place).1,
    (monthAndDay 0 (monthLengths (isLeap y)) place).2⟩ : Date) = _
  rw [hplace, monthAndDay_eq _ _ _ _ hd, Nat.zero_add]

/-- Every day number is that of a date that the calendar has. -/
theorem exists_number_eq (n : Int) :
    ∃ y k d, d < (monthLengths (isLeap y)).getD k 0 ∧ number ⟨y, k + 1, d + 1⟩ = n := by
  obtain ⟨whole, bound⟩ := yearAndPlace_spec n
  rw [← total_monthLengths] at bound
  obtain ⟨k, d, -, hd, place⟩ := exists_month _ _ bound
  refine ⟨(yearAndPlace n).1, k, d, hd, ?_⟩
  rw [number_eq, ← place]
  exact whole

/-- **A day number is that of its date.** -/
theorem number_ofNumber (n : Int) : (ofNumber n).number = n := by
  obtain ⟨y, k, d, hd, rfl⟩ := exists_number_eq n
  rw [ofNumber_eq hd]

/-- The calendar has the date of every day number. -/
theorem isValid_ofNumber (n : Int) : (ofNumber n).isValid = true := by
  obtain ⟨y, k, d, hd, rfl⟩ := exists_number_eq n
  rw [ofNumber_eq hd]
  exact (isValid_iff y k d).2 hd

/-- **A date is that of its day number.** -/
theorem ofNumber_number {d : Date} (h : d.isValid = true) : ofNumber d.number = d := by
  obtain ⟨y, m, n⟩ := d
  have bounds : 1 ≤ m ∧ m ≤ 12 ∧ 1 ≤ n ∧ n ≤ daysInMonth y m := isValid_iff_bounds.1 h
  obtain ⟨k, rfl⟩ : ∃ k, m = k + 1 := ⟨m - 1, by omega⟩
  obtain ⟨d, rfl⟩ : ∃ d, n = d + 1 := ⟨n - 1, by omega⟩
  exact ofNumber_eq ((isValid_iff y k d).1 h)

/-- A date lies in its year. -/
theorem number_in_year {d : Date} (h : d.isValid = true) :
    daysBeforeYear d.year ≤ d.number ∧ d.number < daysBeforeYear d.year + yearLength d.year := by
  have same := ofNumber_number h
  obtain ⟨whole, bound⟩ := yearAndPlace_spec d.number
  have year : (yearAndPlace d.number).1 = d.year := congrArg Date.year same
  rw [year] at whole bound
  omega

/-- The years from some year on are those of the days from its first day on. -/
theorem year_le_iff {d : Date} (h : d.isValid = true) (y : Int) :
    y ≤ d.year ↔ daysBeforeYear y ≤ d.number := by
  obtain ⟨low, high⟩ := number_in_year h
  rcases Int.lt_trichotomy y d.year with before | same | after
  · have := daysBeforeYear_le before
    omega
  · subst same
    omega
  · have := daysBeforeYear_le after
    omega

end Date

/-! ## §4. Local times. -/

namespace LocalTime

/-- A time of day that clocks show. -/
theorem isClockTime_iff {hour minute second : Nat} :
    isClockTime hour minute second = true ↔ hour < 24 ∧ minute < 60 ∧ second < 60 := by
  simp only [isClockTime, Bool.and_eq_true, decide_eq_true_eq, and_assoc]

/-- A local time that there is, by its day and its time of day. -/
theorem isValid_iff_parts {t : LocalTime} : t.isValid = true ↔
    t.toDate.isValid = true ∧ isClockTime t.hour t.minute t.second = true := Bool.and_eq_true_iff

/-- **A count of seconds is that of its local time.** -/
theorem seconds_ofSeconds (s : Int) : (ofSeconds s).seconds = s := by
  have day : (ofSeconds s).toDate.number = s / 86400 + epochDay := Date.number_ofNumber _
  have clock : (ofSeconds s).hour * 3600 + (ofSeconds s).minute * 60 + (ofSeconds s).second
      = (s % 86400).toNat := by
    show (s % 86400).toNat / 3600 * 3600 + (s % 86400).toNat / 60 % 60 * 60
      + (s % 86400).toNat % 60 = _
    omega
  unfold seconds
  rw [day, clock]
  omega

/-- A count of seconds is that of a day and a time that there are. -/
theorem isValid_ofSeconds (s : Int) : (ofSeconds s).isValid = true :=
  isValid_iff_parts.2 ⟨Date.isValid_ofNumber _, isClockTime_ofSeconds s⟩

/-- **A local time is that of its count of seconds.** -/
theorem ofSeconds_seconds {t : LocalTime} (h : t.isValid = true) : ofSeconds t.seconds = t := by
  obtain ⟨d, hour, minute, second⟩ := t
  obtain ⟨date, clockTime⟩ := isValid_iff_parts.1 h
  obtain ⟨hourBound, minuteBound, secondBound⟩ : hour < 24 ∧ minute < 60 ∧ second < 60 :=
    isClockTime_iff.1 clockTime
  obtain ⟨clock, hclock⟩ : ∃ c, c = hour * 3600 + minute * 60 + second := ⟨_, rfl⟩
  have count : (⟨d, hour, minute, second⟩ : LocalTime).seconds
      = (d.number - epochDay) * 86400 + (clock : Int) := by
    rw [hclock]
    rfl
  -- a time of day is shorter than a day, so that division tells the two apart
  have day : ((d.number - epochDay) * 86400 + (clock : Int)) / 86400 + epochDay = d.number := by
    omega
  have rest : (((d.number - epochDay) * 86400 + (clock : Int)) % 86400).toNat = clock := by
    omega
  rw [count]
  unfold ofSeconds
  rw [day, rest, Date.ofNumber_number date]
  have hours : clock / 3600 = hour := by omega
  have minutes : clock / 60 % 60 = minute := by omega
  have seconds : clock % 60 = second := by omega
  show (⟨d, clock / 3600, clock / 60 % 60, clock % 60⟩ : LocalTime) = _
  rw [hours, minutes, seconds]

/-- The years from some year on, by the counts of seconds. -/
theorem year_ofSeconds_iff (s y : Int) :
    y ≤ (ofSeconds s).year ↔ (daysBeforeYear y - epochDay) * 86400 ≤ s := by
  have valid : (ofSeconds s).toDate.isValid = true := Date.isValid_ofNumber _
  have day : (ofSeconds s).toDate.number = s / 86400 + epochDay := Date.number_ofNumber _
  rw [Date.year_le_iff valid, day]
  omega

end LocalTime

end Recordwise.Calendar
