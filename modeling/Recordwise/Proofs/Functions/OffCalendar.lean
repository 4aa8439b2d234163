/-
  Recordwise.Proofs.Functions.OffCalendar
  ───────────────────────────────────────
  **When a function leaves the calendar.**

  A count of seconds is checked against the calendar's range before the offset
  of the zone is added, and not afterwards.  So a count near an end of the
  range may have a local time outside it, and writing that local time ends
  everything.  The two functions that write instants do this exactly for such
  counts; no other function does.  Main statements:

      Zone.near_end_of_overshoots    — such counts are less than a day from an
                                       end of the range
      dateFormat_eq_offCalendar_iff  — `date_format`, for a pattern that
                                       compiles
      fromUnixtime_eq_offCalendar_iff — `from_unixtime`
      apply_leavesFor                — all functions, for such counts alone
-/
import Recordwise.Proofs.Evaluation.CacheIndependence
import Recordwise.Proofs.Failure.FailsWith
import Recordwise.Proofs.Functions.EpochRoundTrip

namespace Recordwise

open Calendar
open DatePattern (Cache)

/-! ## §1. Counts whose local time is outside the range. -/

/-- A count of seconds in the calendar's range whose local time in a zone is
outside it. -/
def Zone.Overshoots (z : Zone) (n : Int) : Prop :=
  isRepresentable n = true ∧ isRepresentable (n + z.offsetAt n) = false

/-- **Such counts are less than a day from an end of the range.** -/
theorem Zone.near_end_of_overshoots {z : Zone} {n : Int} (h : z.Overshoots n) :
    n < earliest + 86400 ∨ latest - 86400 < n := by
  obtain ⟨inside, outside⟩ := h
  -- an offset is shorter than a day, whatever the zone
  have offset := z.isOffset_offsetAt n
  unfold isOffset at offset
  unfold isRepresentable earliest latest at inside outside
  unfold earliest latest
  rw [Bool.and_eq_true, decide_eq_true_eq, decide_eq_true_eq] at offset inside
  rw [Bool.and_eq_false_iff, decide_eq_false_iff_not, decide_eq_false_iff_not] at outside
  omega

theorem Calendar.Instant.local?_eq_none_iff (i : Instant) :
    i.local? = none ↔ isRepresentable (i.seconds + i.zone.offsetAt i.seconds) = false := by
  show (if isRepresentable (i.seconds + i.zone.offsetAt i.seconds) then
      some (LocalTime.ofSeconds (i.seconds + i.zone.offsetAt i.seconds)) else none) = none ↔ _
  by_cases shown : isRepresentable (i.seconds + i.zone.offsetAt i.seconds) = true
  · simp [shown]
  · simp [shown]

/-! ## §2. Computations that leave the calendar. -/

namespace Eval

variable {α β : Type}

/-- A lifted result does not leave the calendar: what is behind it may. -/
theorem fst_runWith_ofExcept_bind_eq_offCalendar_iff (x : Except Failure α) (f : α → Eval β)
    (cache : Cache) : ((ofExcept x >>= f).runWith cache).1 = .error .offCalendar ↔
      ∃ a, x = .ok a ∧ ((f a).runWith cache).1 = .error .offCalendar := by
  constructor
  · intro left
    rcases cases_of_runWith_bind_eq_error left with first | ⟨a, next, ran, second⟩
    · rw [runWith_ofExcept] at first
      cases x <;> cases first
    · rw [runWith_ofExcept] at ran
      cases x with
      | error e => cases ran
      | ok b =>
          cases ran
          exact ⟨a, rfl, second⟩
  · rintro ⟨a, rfl, left⟩
    rw [runWith_bind, runWith_ofExcept]
    exact left

/-- Nor does a pattern that is refused. -/
theorem fst_runWith_pattern_bind_eq_offCalendar_iff {cache : Cache} (sound : cache.IsSound)
    {f : DatePattern → Eval β} {off : Prop}
    (h : ∀ p next, ((f p).runWith next).1 = .error .offCalendar ↔ off) (function source : String) :
    ((pattern function source >>= f).runWith cache).1 = .error .offCalendar ↔
      (∃ p, DatePattern.compile source = .ok p) ∧ off := by
  cases compiled : DatePattern.compile source with
  | ok p =>
      obtain ⟨next, ran⟩ := exists_runWith_pattern_bind sound compiled function f
      rw [ran, h]
      exact ⟨fun left => ⟨⟨p, rfl⟩, left⟩, fun left => left.2⟩
  | error e =>
      have refused := pattern_runWith_fst sound function source
      rw [compiled] at refused
      rw [runWith_bind]
      rcases asked : (pattern function source).runWith cache with ⟨result, next⟩
      rw [asked] at refused
      have refused : result = _ := refused
      rw [refused]
      constructor
      · intro left
        cases left
      · rintro ⟨⟨p, same⟩, -⟩
        cases same

/-- A computation leaves the calendar only where a zone has a count whose
local time is outside the range. -/
def LeavesFor (z : Zone) (x : Eval α) : Prop :=
  ∀ cache, (x.runWith cache).1 = .error .offCalendar → ∃ n : Int64, z.Overshoots n.toInt

namespace LeavesFor

variable {z : Zone}

theorem pure (a : α) : LeavesFor z (Pure.pure a : Eval α) := by
  intro cache left
  cases left

theorem fail (f : Failure) : LeavesFor z (Eval.fail f : Eval α) := by
  intro cache left
  cases left

theorem ofExcept (x : Except Failure α) : LeavesFor z (Eval.ofExcept x) := by
  cases x with
  | ok a => exact pure a
  | error f => exact fail f

theorem pattern (function source : String) : LeavesFor z (Eval.pattern function source) := by
  intro cache left
  rw [runWith_pattern] at left
  cases got : (cache.get source).1 with
  | ok p =>
      rw [got] at left
      cases left
  | error e =>
      rw [got] at left
      cases left

/-- **Computations behind one another.** -/
theorem bind {x : Eval α} {f : α → Eval β} (hx : LeavesFor z x) (hf : ∀ a, LeavesFor z (f a)) :
    LeavesFor z (x >>= f) := by
  intro cache left
  rcases cases_of_runWith_bind_eq_error left with first | ⟨a, next, -, second⟩
  · exact hx cache first
  · exact hf a next second

theorem isClosed : IsClosed fun _ => LeavesFor z := ⟨pure, bind⟩

/-- Behind a lifted result only what it gives counts. -/
theorem ofExcept_bind {x : Except Failure α} {f : α → Eval β}
    (hf : ∀ a, x = .ok a → LeavesFor z (f a)) : LeavesFor z (Eval.ofExcept x >>= f) := by
  intro cache left
  obtain ⟨a, given, left⟩ := (fst_runWith_ofExcept_bind_eq_offCalendar_iff x f cache).1 left
  exact hf a given cache left

end LeavesFor

end Eval

/-! ## §3. Functions. -/

namespace Functions

variable {ctx : Context}

theorem renderInstant_eq_offCalendar_iff (function : String) (p : DatePattern) (i : Instant)
    (cache : Cache) : ((renderInstant function p i).runWith cache).1 = .error .offCalendar ↔
      isRepresentable (i.seconds + i.zone.offsetAt i.seconds) = false := by
  rw [← Instant.local?_eq_none_iff]
  unfold renderInstant
  cases i.local? with
  | none => exact ⟨fun _ => rfl, fun _ => rfl⟩
  | some t =>
      refine ⟨fun left => ?_, nofun⟩
      by_cases outside : t.year < 0 ∨ 9999 < t.year
      · simp only [if_pos outside] at left
        cases left
      · simp only [if_neg outside] at left
        cases left

theorem patternArg_eq_ok_iff (function : String) (v w : Value) (source : String) :
    patternArg function [v, w] = .ok source ↔ w.text? = some source := by
  have read : textArg function [v, w] 1 = .ok w.text? := rfl
  unfold patternArg
  rw [read]
  cases w.text? with
  | none => exact ⟨nofun, nofun⟩
  | some text =>
      show Except.ok text = .ok source ↔ _
      rw [Except.ok.injEq, Option.some.injEq]

theorem integerArg_eq_ok_iff (function : String) (v : Value) (n : Int64) :
    integerArg function [v] 0 = .ok (some n) ↔ v.asInteger? = some n := by
  unfold integerArg argument
  cases v with
  | null => exact ⟨nofun, nofun⟩
  | _ =>
      simp only [List.getElem?_cons_zero]
      split
      · rename_i m read
        rw [read, Except.ok.injEq]
      · rename_i read
        rw [read]
        exact ⟨nofun, nofun⟩

/-- **`date_format` leaves the calendar** exactly for a count that overshoots
and a pattern that compiles. -/
theorem dateFormat_eq_offCalendar_iff {cache : Cache} (sound : cache.IsSound) (v w : Value) :
    ((dateFormat ctx [v, w]).runWith cache).1 = .error .offCalendar ↔
      (∃ n, v.asInteger? = some n ∧ ctx.zone.Overshoots n.toInt) ∧
        ∃ source p, w.text? = some source ∧ DatePattern.compile source = .ok p := by
  have written (i : Instant) (source : String) := Eval.fst_runWith_pattern_bind_eq_offCalendar_iff
    sound (fun p next => renderInstant_eq_offCalendar_iff "date_format" p i next) "date_format"
    source
  unfold dateFormat
  rw [Eval.fst_runWith_ofExcept_bind_eq_offCalendar_iff]
  constructor
  · rintro ⟨i?, arg, left⟩
    cases i? with
    | none => cases left
    | some i =>
        obtain ⟨n, isInteger, inRange, rfl⟩ := (instantArg_eq_ok_iff _ ctx v _ i).1 arg
        obtain ⟨source, given, left⟩ :=
          (Eval.fst_runWith_ofExcept_bind_eq_offCalendar_iff _ _ _).1 left
        obtain ⟨⟨p, compiled⟩, outside⟩ := (written _ source).1 left
        exact ⟨⟨n, isInteger, inRange, outside⟩, source, p,
          (patternArg_eq_ok_iff _ v w source).1 given, compiled⟩
  · rintro ⟨⟨n, isInteger, inRange, outside⟩, source, p, text, compiled⟩
    -- the pattern is compiled first: one that is refused would end the call before
    refine ⟨some ⟨n.toInt, ctx.zone⟩,
      (instantArg_eq_ok_iff _ ctx v _ _).2 ⟨n, isInteger, inRange, rfl⟩, ?_⟩
    refine (Eval.fst_runWith_ofExcept_bind_eq_offCalendar_iff _ _ _).2
      ⟨source, (patternArg_eq_ok_iff _ v w source).2 text, ?_⟩
    exact (written _ source).2 ⟨⟨p, compiled⟩, outside⟩

/-- **`from_unixtime` leaves the calendar** exactly for a count that
overshoots. -/
theorem fromUnixtime_eq_offCalendar_iff {cache : Cache} (sound : cache.IsSound) (v : Value) :
    ((fromUnixtime ctx [v]).runWith cache).1 = .error .offCalendar ↔
      ∃ n, v.asInteger? = some n ∧ ctx.zone.Overshoots n.toInt := by
  have standard : ∃ p, DatePattern.compile standardPattern = .ok p := ⟨_, rfl⟩
  have written (i : Instant) := Eval.fst_runWith_pattern_bind_eq_offCalendar_iff
    sound (fun p next => renderInstant_eq_offCalendar_iff "from_unixtime" p i next) "from_unixtime"
    standardPattern
  unfold fromUnixtime
  rw [Eval.fst_runWith_ofExcept_bind_eq_offCalendar_iff]
  constructor
  · rintro ⟨n?, arg, left⟩
    cases n? with
    | none => cases left
    | some n =>
        obtain ⟨i, found, left⟩ := (Eval.fst_runWith_ofExcept_bind_eq_offCalendar_iff _ _ _).1 left
        obtain ⟨inRange, rfl⟩ := (instantOf_eq_ok_iff _ ctx n i).1 found
        exact ⟨n, (integerArg_eq_ok_iff _ v n).1 arg, inRange, ((written _).1 left).2⟩
  · rintro ⟨n, isInteger, inRange, outside⟩
    refine ⟨some n, (integerArg_eq_ok_iff _ v n).2 isInteger, ?_⟩
    refine (Eval.fst_runWith_ofExcept_bind_eq_offCalendar_iff _ _ _).2
      ⟨_, (instantOf_eq_ok_iff _ ctx n _).2 ⟨inRange, rfl⟩, ?_⟩
    exact (written _).2 ⟨standard, outside⟩

/-! ## §4. All functions. -/

open Eval

/-- Writing an instant leaves the calendar for the count of the instant. -/
theorem renderInstant_leavesFor (function : String) (p : DatePattern) {n : Int64}
    (inRange : isRepresentable n.toInt = true) (z : Zone) :
    (renderInstant function p ⟨n.toInt, z⟩).LeavesFor z := by
  intro cache left
  exact ⟨n, inRange, (renderInstant_eq_offCalendar_iff function p _ cache).1 left⟩

theorem readBy_leavesFor (function source text : String) (z : Zone) :
    (readBy function source text).LeavesFor z :=
  (LeavesFor.pattern function source).bind fun _ => .ofExcept _

theorem toDateBy_leavesFor (args : List Value) (z : Zone) : (toDateBy args).LeavesFor z := by
  refine LeavesFor.ofExcept_bind fun text? _ => ?_
  cases text? with
  | none => exact .pure _
  | some text =>
      refine LeavesFor.ofExcept_bind fun source _ => ?_
      exact (readBy_leavesFor _ source text z).bind fun _ => .pure _

theorem dateFormat_leavesFor (args : List Value) : (dateFormat ctx args).LeavesFor ctx.zone := by
  refine LeavesFor.ofExcept_bind fun i? arg => ?_
  cases i? with
  | none => exact .pure _
  | some i =>
      -- that the count is in range is known from the argument alone
      cases args with
      | nil => cases arg
      | cons v rest =>
          obtain ⟨n, -, inRange, rfl⟩ := (instantArg_eq_ok_iff _ ctx v rest i).1 arg
          refine LeavesFor.ofExcept_bind fun source _ => ?_
          exact (LeavesFor.pattern _ source).bind fun p => renderInstant_leavesFor _ p inRange _

theorem fromUnixtime_leavesFor (args : List Value) :
    (fromUnixtime ctx args).LeavesFor ctx.zone := by
  refine LeavesFor.ofExcept_bind fun n? _ => ?_
  cases n? with
  | none => exact .pure _
  | some n =>
      refine LeavesFor.ofExcept_bind fun i found => ?_
      obtain ⟨inRange, rfl⟩ := (instantOf_eq_ok_iff _ ctx n i).1 found
      exact (LeavesFor.pattern _ _).bind fun p => renderInstant_leavesFor _ p inRange _

theorem unixTimestamp_leavesFor (args : List Value) (z : Zone) :
    (unixTimestamp ctx args).LeavesFor z := by
  have localTime (text : String) : (localTimeArg ctx args text).LeavesFor z := by
    unfold localTimeArg
    by_cases patterned : 1 < args.length
    · simp only [patterned, if_true]
      exact LeavesFor.ofExcept_bind fun source _ => readBy_leavesFor _ source text z
    · simp only [patterned, if_false]
      exact .ofExcept _
  refine LeavesFor.ofExcept_bind fun text? _ => ?_
  cases text? with
  | none => exact .pure _
  | some text => exact (localTime text).bind fun _ => .ofExcept _

/-- **Every function leaves the calendar only for a count that overshoots**, in
the zone of the context. -/
theorem apply_leavesFor (ctx : Context) (b : Builtin) (args : List Value) :
    (b.apply ctx args).LeavesFor ctx.zone := by
  cases b with
  | toDateBy => exact toDateBy_leavesFor args _
  | dateFormat => exact dateFormat_leavesFor args
  | fromUnixtime => exact fromUnixtime_leavesFor args
  | unixTimestamp => exact unixTimestamp_leavesFor args _
  | concat => exact .ofExcept (concat args)
  | coalesce => exact .ofExcept (coalesce args)
  | _ => exact .ofExcept _

end Functions

end Recordwise
