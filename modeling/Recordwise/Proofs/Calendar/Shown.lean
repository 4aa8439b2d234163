/-
  Recordwise.Proofs.Calendar.Shown
  ────────────────────────────────
  **Instants and the local times that clocks show at them.**

  A local time in the years that four digits write is far from the ends of the
  calendar, so that every instant at which clocks show it lies in the
  calendar's range, whatever the zone.  Main statements:

      local?_eq_some_iff   — what clocks show, by the count of seconds
      seconds_fourDigits   — the counts of the years that four digits write
      exists_ofLocal?      — what clocks show at an instant is shown first at
                             an instant that is not after it
      ofLocal?_isLeast     — a local time has an instant exactly if clocks show
                             it, and it has the first one
-/
import Recordwise.Calendar.Instant
import Recordwise.Proofs.Calendar.Numbering
import Recordwise.Proofs.Zone.Earliest
import Recordwise.Zone.Table

namespace Recordwise.Calendar

namespace LocalTime

/-- **The counts of seconds of the years that four digits write.** -/
theorem seconds_fourDigits (s : Int) :
    (0 ≤ (ofSeconds s).year ∧ (ofSeconds s).year ≤ 9999) ↔
      -62167219200 ≤ s ∧ s < 253402300800 := by
  have first : (daysBeforeYear 0 - epochDay) * 86400 = -62167219200 := by decide
  have behind : (daysBeforeYear 10000 - epochDay) * 86400 = 253402300800 := by decide
  have low := year_ofSeconds_iff s 0
  have high := year_ofSeconds_iff s 10000
  rw [first] at low
  rw [behind] at high
  omega

end LocalTime

namespace Instant

theorem local?_eq_some_iff (i : Instant) (l : LocalTime) :
    i.local? = some l ↔ isRepresentable (i.seconds + i.zone.offsetAt i.seconds) = true ∧
      LocalTime.ofSeconds (i.seconds + i.zone.offsetAt i.seconds) = l := by
  show (if isRepresentable (i.seconds + i.zone.offsetAt i.seconds) then
      some (LocalTime.ofSeconds (i.seconds + i.zone.offsetAt i.seconds)) else none) = some l ↔ _
  by_cases h : isRepresentable (i.seconds + i.zone.offsetAt i.seconds) = true
  · rw [if_pos h, Option.some.injEq]
    exact ⟨fun same => ⟨h, same⟩, fun same => same.2⟩
  · rw [if_neg h]
    constructor
    · intro same
      cases same
    · rintro ⟨yes, -⟩
      exact absurd yes h

/-- **What clocks show at an instant is shown first at an instant that is not
after it**, in the years that four digits write. -/
theorem exists_ofLocal? {i : Instant} {l : LocalTime} (shown : i.local? = some l)
    (year : 0 ≤ l.year ∧ l.year ≤ 9999) :
    ∃ s, ofLocal? l i.zone = some ⟨s, i.zone⟩ ∧ isRepresentable s = true ∧ s ≤ i.seconds ∧
      s + i.zone.offsetAt s = i.seconds + i.zone.offsetAt i.seconds := by
  obtain ⟨-, rfl⟩ := (local?_eq_some_iff i l).1 shown
  obtain ⟨low, high⟩ := (LocalTime.seconds_fourDigits _).1 year
  obtain ⟨s, found, notAfter, same⟩ := i.zone.exists_instantOf? i.seconds
  have offset := i.zone.isOffset_offsetAt s
  unfold Zone.isOffset at offset
  rw [Bool.and_eq_true, decide_eq_true_eq, decide_eq_true_eq] at offset
  -- less than a day off, `s` is still far from the ends of the calendar
  have inRange : isRepresentable s = true := by
    unfold isRepresentable earliest latest
    rw [Bool.and_eq_true, decide_eq_true_eq, decide_eq_true_eq]
    omega
  refine ⟨s, ?_, inRange, notAfter, same⟩
  unfold ofLocal? ofSeconds?
  rw [LocalTime.seconds_ofSeconds, found]
  exact if_pos inRange

/-- Whether the clocks of a zone show a local time at a count of seconds in the
calendar's range. -/
def Shows (zone : Zone) (l : LocalTime) (s : Int) : Prop :=
  ∃ i, ofSeconds? s zone = some i ∧ i.local? = some l

theorem Shows.seconds_eq {zone : Zone} {l : LocalTime} {s : Int} (h : Shows zone l s) :
    s + zone.offsetAt s = l.seconds := by
  obtain ⟨i, found, shown⟩ := h
  obtain ⟨rfl, rfl⟩ := ofSeconds?_eq_some found
  obtain ⟨-, rfl⟩ := (local?_eq_some_iff i l).1 shown
  rw [LocalTime.seconds_ofSeconds]

/-- What clocks show is a local time that the calendar has. -/
theorem Shows.isValid {zone : Zone} {l : LocalTime} {s : Int} (h : Shows zone l s) :
    l.isValid = true := by
  obtain ⟨i, -, shown⟩ := h
  obtain ⟨-, rfl⟩ := (local?_eq_some_iff i l).1 shown
  exact LocalTime.isValid_ofSeconds _

/-- The instant of a local time is one at which clocks show it. -/
theorem shows_of_ofLocal? {zone : Zone} {l : LocalTime} {t : Instant}
    (found : ofLocal? l zone = some t) (valid : l.isValid = true)
    (year : 0 ≤ l.year ∧ l.year ≤ 9999) : t.zone = zone ∧ t.local? = some l := by
  obtain ⟨s, instant, inRange⟩ := Option.bind_eq_some_iff.1 found
  obtain ⟨rfl, rfl⟩ := ofSeconds?_eq_some inRange
  have count := ((t.zone.instantOf?_eq_some_iff _ _).1 instant).1
  have count : t.seconds + t.zone.offsetAt t.seconds = l.seconds := count
  rw [← LocalTime.ofSeconds_seconds valid] at year
  obtain ⟨low, high⟩ := (LocalTime.seconds_fourDigits _).1 year
  refine ⟨rfl, (local?_eq_some_iff t l).2 ⟨?_, ?_⟩⟩
  · rw [count]
    unfold isRepresentable earliest latest
    rw [Bool.and_eq_true, decide_eq_true_eq, decide_eq_true_eq]
    omega
  · rw [count]
    exact LocalTime.ofSeconds_seconds valid

/-- **A local time has an instant exactly if clocks show it, and it has the first
one**, in the years that four digits write. -/
theorem ofLocal?_isLeast (zone : Zone) :
    (∀ l : LocalTime, l.isValid = true → 0 ≤ l.year ∧ l.year ≤ 9999 →
      ((∃ t, ofLocal? l zone = some t) ↔ ∃ s, Shows zone l s) ∧
      ∀ t, ofLocal? l zone = some t →
        t.zone = zone ∧ t.local? = some l ∧ IsLeast {s | Shows zone l s} t.seconds) ∧
    ∀ s l, Shows zone l s → 0 ≤ l.year ∧ l.year ≤ 9999 →
      ∃ t, ofLocal? l zone = some t ∧ t.seconds ≤ s ∧ t.local? = some l := by
  have first {l : LocalTime} (valid : l.isValid = true) (year : 0 ≤ l.year ∧ l.year ≤ 9999)
      {t : Instant} (found : ofLocal? l zone = some t) :
      t.zone = zone ∧ t.local? = some l ∧ IsLeast {s | Shows zone l s} t.seconds := by
    obtain ⟨sameZone, shown⟩ := shows_of_ofLocal? found valid year
    obtain ⟨s, instant, inRange⟩ := Option.bind_eq_some_iff.1 found
    have same := (ofSeconds?_eq_some inRange).1
    rw [← same] at inRange
    have least := ((zone.instantOf?_eq_some_iff _ _).1 (ofLocal?_eq_some found)).2
    exact ⟨sameZone, shown, ⟨t, inRange, shown⟩, fun s' hs' => least hs'.seconds_eq⟩
  have exists' {s : Int} {l : LocalTime} (h : Shows zone l s) (year : 0 ≤ l.year ∧ l.year ≤ 9999) :
      ∃ t, ofLocal? l zone = some t ∧ t.seconds ≤ s := by
    obtain ⟨i, found, shown⟩ := h
    obtain ⟨rfl, rfl⟩ := ofSeconds?_eq_some found
    obtain ⟨s, instant, -, notAfter, -⟩ := exists_ofLocal? shown year
    exact ⟨_, instant, notAfter⟩
  constructor
  · intro l valid year
    refine ⟨⟨?_, ?_⟩, fun t found => first valid year found⟩
    · intro found
      obtain ⟨t, found⟩ := found
      exact ⟨t.seconds, (first valid year found).2.2.1⟩
    · intro shown
      obtain ⟨s, shown⟩ := shown
      obtain ⟨t, found, -⟩ := exists' shown year
      exact ⟨t, found⟩
  · intro s l shown year
    obtain ⟨t, found, notAfter⟩ := exists' shown year
    exact ⟨t, found, notAfter, (first shown.isValid year found).2.1⟩

/-- Clocks that are set twice within an hour show a time again, and it has the
first instant. -/
theorem ofLocal?_isLeast_twice :
    let l : LocalTime := ⟨⟨1916, 10, 1⟩, 2, 34, 39⟩
    l.isValid = true ∧ (0 ≤ l.year ∧ l.year ≤ 9999) ∧ Shows Zone.dublin l (-1680470721) ∧
      ofLocal? l Zone.dublin = some ⟨-1680474321, Zone.dublin⟩ ∧
      IsLeast {s | Shows Zone.dublin l s} (-1680474321) := by
  intro l
  have valid : l.isValid = true := by decide
  have year : 0 ≤ l.year ∧ l.year ≤ 9999 := by decide
  have again : Shows Zone.dublin l (-1680470721) :=
    ⟨⟨-1680470721, Zone.dublin⟩, rfl, by decide +kernel⟩
  have found : ofLocal? l Zone.dublin = some ⟨-1680474321, Zone.dublin⟩ := by
    decide +kernel
  exact ⟨valid, year, again, found, (((ofLocal?_isLeast Zone.dublin).1 l valid year).2 _ found).2.2⟩

end Instant

end Recordwise.Calendar
