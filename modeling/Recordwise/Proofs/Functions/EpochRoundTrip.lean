/-
  Recordwise.Proofs.Functions.EpochRoundTrip
  ──────────────────────────────────────────
  **`unix_timestamp` reads what `date_format` writes.**

  A pattern with all six fields keeps the local time that it writes, and the
  first instant at which clocks show that local time is not after the instant
  that was written.  But `unix_timestamp` trims its text first: a pattern with
  a blank at an end writes texts that it then refuses.  Main statements:

      dateFormat_eq_ok_iff      — what `date_format` writes
      fst_runWith_unixTimestamp — what `unix_timestamp` gives
      readsBack_dateFormat      — the text is read back exactly when the pattern
                                  has no blank end
-/
import Recordwise.Builtin
import Recordwise.Proofs.Calendar.Shown
import Recordwise.Proofs.DatePattern.BlankEnds
import Recordwise.Proofs.Evaluation.Running

namespace Recordwise

open Calendar
open DatePattern (Cache)

/-! ## §1. Writing. -/

namespace Functions

theorem instantOf_eq_ok_iff (function : String) (ctx : Context) (n : Int64) (i : Instant) :
    instantOf function ctx n = .ok i ↔
      isRepresentable n.toInt = true ∧ i = ⟨n.toInt, ctx.zone⟩ := by
  unfold instantOf Instant.ofSeconds?
  by_cases h : isRepresentable n.toInt = true
  · rw [if_pos h]
    constructor
    · intro same
      exact ⟨h, (Except.ok.inj same).symm⟩
    · rintro ⟨-, rfl⟩
      rfl
  · rw [if_neg h]
    constructor
    · intro same
      cases same
    · rintro ⟨yes, -⟩
      exact absurd yes h

/-- Which values denote instants. -/
theorem instantArg_eq_ok_iff (function : String) (ctx : Context) (v : Value) (rest : List Value)
    (i : Instant) :
    instantArg function ctx (v :: rest) = .ok (some i) ↔
      ∃ n, v.asInteger? = some n ∧ isRepresentable n.toInt = true ∧ i = ⟨n.toInt, ctx.zone⟩ := by
  have integer {n : Int64} (h : v.asInteger? = some n) :
      instantArg function ctx (v :: rest) = (instantOf function ctx n).map some := by
    unfold instantArg
    cases v with
    | null => cases h
    | _ => simp only [List.head?_cons, h]
  constructor
  · intro given
    cases h : v.asInteger? with
    | none =>
        -- null denotes nothing, and anything else is refused
        unfold instantArg at given
        cases v with
        | null => cases given
        | _ =>
            simp only [List.head?_cons, h] at given
            cases given
    | some n =>
        rw [integer h] at given
        obtain ⟨j, found, same⟩ := DatePattern.map_eq_ok given
        obtain ⟨inRange, rfl⟩ := (instantOf_eq_ok_iff function ctx n j).1 found
        exact ⟨n, rfl, inRange, (Option.some.inj same).symm⟩
  · rintro ⟨n, h, inRange, rfl⟩
    rw [integer h, (instantOf_eq_ok_iff function ctx n _).2 ⟨inRange, rfl⟩]
    rfl

/-- What is written of an instant. -/
theorem renderInstant_eq_ok_iff (function : String) (p : DatePattern) (i : Instant) (cache : Cache)
    (w : Value) :
    ((renderInstant function p i).runWith cache).1 = .ok w ↔
      ∃ t, i.local? = some t ∧ (0 ≤ t.year ∧ t.year ≤ 9999) ∧ w = .text (p.format t) := by
  unfold renderInstant
  cases i.local? with
  | none =>
      constructor
      · intro h
        cases h
      · rintro ⟨t, h, -⟩
        cases h
  | some t =>
      by_cases outside : t.year < 0 ∨ 9999 < t.year
      · constructor
        · intro h
          simp only [if_pos outside] at h
          cases h
        · rintro ⟨u, same, inside, -⟩
          cases same
          omega
      · constructor
        · intro h
          simp only [if_neg outside] at h
          exact ⟨t, rfl, by omega, (Except.ok.inj h).symm⟩
        · rintro ⟨u, same, -, rfl⟩
          cases same
          simp only [if_neg outside]
          rfl

/-- **What `date_format` writes**: the local time of the instant that a value
denotes, in the years that four digits write. -/
theorem dateFormat_eq_ok_iff {cache : Cache} (sound : cache.IsSound) {source : String}
    {p : DatePattern} (compiled : DatePattern.compile source = .ok p) (ctx : Context) (v : Value)
    (t : String) :
    ((dateFormat ctx [v, .text source]).runWith cache).1 = .ok (.text t) ↔
      ∃ n l, v.asInteger? = some n ∧ isRepresentable n.toInt = true ∧
        Instant.local? ⟨n.toInt, ctx.zone⟩ = some l ∧ (0 ≤ l.year ∧ l.year ≤ 9999) ∧
        t = p.format l := by
  have rendered (i : Instant) (w : Value) :
      ((Eval.pattern "date_format" source >>= fun p => renderInstant "date_format" p i).runWith
        cache).1 = .ok w ↔
        ∃ l, i.local? = some l ∧ (0 ≤ l.year ∧ l.year ≤ 9999) ∧ w = .text (p.format l) := by
    obtain ⟨next, run⟩ := Eval.exists_runWith_pattern_bind sound compiled "date_format"
      fun p => renderInstant "date_format" p i
    rw [run]
    exact renderInstant_eq_ok_iff _ p i next w
  -- a null value writes null, which is no text
  unfold dateFormat
  rw [Eval.fst_runWith_ofExcept_bind_eq_ok_iff]
  constructor
  · rintro ⟨i?, arg, written⟩
    cases i? with
    | none => cases written
    | some i =>
        obtain ⟨n, isInteger, inRange, rfl⟩ := (instantArg_eq_ok_iff _ ctx v _ i).1 arg
        obtain ⟨l, shown, year, text⟩ := (rendered _ _).1 written
        exact ⟨n, l, isInteger, inRange, shown, year, Value.text.inj text⟩
  · rintro ⟨n, l, isInteger, inRange, shown, year, rfl⟩
    exact ⟨some _, (instantArg_eq_ok_iff _ ctx v _ _).2 ⟨n, isInteger, inRange, rfl⟩,
      (rendered _ _).2 ⟨l, shown, year, rfl⟩⟩

/-! ## §2. Reading. -/

/-- **What `unix_timestamp` gives**: the count of seconds of the local time that
the pattern reads of the trimmed text. -/
theorem fst_runWith_unixTimestamp {cache : Cache} (sound : cache.IsSound) {source : String}
    {p : DatePattern} (compiled : DatePattern.compile source = .ok p) (ctx : Context) (t : String) :
    ((unixTimestamp ctx [.text t, .text source]).runWith cache).1 =
      ((readWith "unix_timestamp" p t).bind (epochValue ctx.zone)).mapError .failed := by
  show ((localTimeArg ctx [.text t, .text source] t >>= fun l =>
    Eval.ofExcept (epochValue ctx.zone l)).runWith cache).1 = _
  have last (l : LocalTime) (cache : Cache) :
      ((Eval.ofExcept (epochValue ctx.zone l)).runWith cache).1
        = (epochValue ctx.zone l).mapError .failed := by
    rw [Eval.runWith_ofExcept]
  rw [Eval.fst_runWith_bind last]
  obtain ⟨next, run⟩ := Eval.exists_runWith_pattern_bind sound compiled "unix_timestamp"
    fun p => Eval.ofExcept (readWith "unix_timestamp" p t)
  have first : (localTimeArg ctx [.text t, .text source] t).runWith cache
      = (Eval.ofExcept (readWith "unix_timestamp" p t)).runWith next := run
  rw [first, Eval.runWith_ofExcept]
  cases readWith "unix_timestamp" p t <;> rfl

theorem readWith_eq (function : String) (p : DatePattern) (text : String) :
    readWith function p text = (p.parse (Text.trimmed text)).mapError fun e =>
      .value function (e.message p.source (Text.trimmed text)) := by
  simp only [readWith]
  cases p.parse (Text.trimmed text) <;> rfl

theorem toInt_ofInt {s : Int} (h : isRepresentable s = true) : (Int64.ofInt s).toInt = s := by
  unfold isRepresentable earliest latest at h
  rw [Bool.and_eq_true, decide_eq_true_eq, decide_eq_true_eq] at h
  exact Int64.toInt_ofInt_of_le (by omega) (by omega)

end Functions

/-! ## §3. Calls. -/

namespace Builtin

/-- Whether a call gives a result, whatever patterns are kept. -/
def Gives (ctx : Context) (name : String) (args : List Value) (r : Except Halt Value) : Prop :=
  ∀ cache : Cache, cache.IsSound → ((call ctx name args).runWith cache).1 = r

theorem call_date_format (ctx : Context) (v w : Value) :
    call ctx "date_format" [v, w] = Functions.dateFormat ctx [v, w] :=
  call_of_check (b := .dateFormat) (by show check "date_format" 2 = _; decide) ctx

theorem call_unix_timestamp (ctx : Context) (v w : Value) :
    call ctx "unix_timestamp" [v, w] = Functions.unixTimestamp ctx [v, w] :=
  call_of_check (b := .unixTimestamp) (by show check "unix_timestamp" 2 = _; decide) ctx

section Calls

variable {ctx : Context} {v : Value} {source text : String} {p : DatePattern} {cache : Cache}
  {l : LocalTime}

theorem date_format_of_local? (compiled : DatePattern.compile source = .ok p) {n : Int64}
    (isInteger : v.asInteger? = some n) (inRange : isRepresentable n.toInt = true)
    (shown : Instant.local? ⟨n.toInt, ctx.zone⟩ = some l) (year : 0 ≤ l.year ∧ l.year ≤ 9999) :
    Gives ctx "date_format" [v, .text source] (.ok (.text (p.format l))) := by
  intro cache sound
  rw [call_date_format, Functions.dateFormat_eq_ok_iff sound compiled]
  exact ⟨n, l, isInteger, inRange, shown, year, rfl⟩

theorem unix_timestamp_of_parse (compiled : DatePattern.compile source = .ok p)
    (parsed : p.parse (Text.trimmed text) = .ok l) {i : Instant}
    (found : Instant.ofLocal? l ctx.zone = some i) :
    Gives ctx "unix_timestamp" [.text text, .text source]
      (.ok (.integer (Int64.ofInt i.seconds))) := by
  intro cache sound
  rw [call_unix_timestamp, Functions.fst_runWith_unixTimestamp sound compiled,
    Functions.readWith_eq, parsed]
  show (Functions.epochValue ctx.zone l).mapError Halt.failed = _
  unfold Functions.epochValue
  rw [found]
  rfl

/-- With a blank end no text is read. -/
theorem unix_timestamp_of_blankEnd (compiled : DatePattern.compile source = .ok p)
    (blank : p.hasBlankEnd = true) (ctx : Context) (text : String) :
    ∃ detail, Gives ctx "unix_timestamp" [.text text, .text source]
      (.error (.failed (.value "unix_timestamp" detail))) := by
  obtain ⟨e, refused⟩ := DatePattern.exists_parse_trimmed blank text
  refine ⟨e.message p.source (Text.trimmed text), ?_⟩
  intro cache sound
  rw [call_unix_timestamp, Functions.fst_runWith_unixTimestamp sound compiled,
    Functions.readWith_eq, refused]
  rfl

/-! ## §4. The round trip. -/

/-- The text that `date_format` writes of an instant, read back as another. -/
structure ReadsBack (ctx : Context) (source text : String) (n e : Int64) : Prop where
  /-- The text reads as the instant found. -/
  read : Gives ctx "unix_timestamp" [.text text, .text source] (.ok (.integer e))
  /-- The instant found is not after the one that was written. -/
  notAfter : e.toInt ≤ n.toInt
  /-- The same text is written of it. -/
  written : Gives ctx "date_format" [.integer e, .text source] (.ok (.text text))
  /-- It is the one that was written if clocks show the local time once. -/
  only : (∀ s, isRepresentable s = true →
    s + ctx.zone.offsetAt s = n.toInt + ctx.zone.offsetAt n.toInt → s = n.toInt) → e = n

theorem isWritable_of_local? {i : Instant} (shown : i.local? = some l)
    (year : 0 ≤ l.year ∧ l.year ≤ 9999) : DatePattern.IsWritable l := by
  obtain ⟨-, rfl⟩ := (Instant.local?_eq_some_iff i l).1 shown
  exact ⟨LocalTime.isValid_ofSeconds _, year⟩

/-- Without a blank end the text is read back. -/
theorem exists_readsBack (sound : cache.IsSound) (compiled : DatePattern.compile source = .ok p)
    (complete : p.IsComplete) (noBlank : p.hasBlankEnd = false)
    (formatted : ((call ctx "date_format" [v, .text source]).runWith cache).1 = .ok (.text text)) :
    ∃ n e : Int64, v.asInteger? = some n ∧ ReadsBack ctx source text n e := by
  rw [call_date_format, Functions.dateFormat_eq_ok_iff sound compiled] at formatted
  obtain ⟨n, l, isInteger, -, shown, year, rfl⟩ := formatted
  -- the pattern keeps the local time, and `s` is where clocks show it first
  have writable := isWritable_of_local? shown year
  have parsed : p.parse (Text.trimmed (p.format l)) = .ok l := by
    rw [DatePattern.trimmed_format writable (DatePattern.apart_of_compile compiled) noBlank,
      DatePattern.parse_format_complete writable complete]
  obtain ⟨s, found, inRange, notAfter, same⟩ := Instant.exists_ofLocal? shown year
  have shownAgain : Instant.local? ⟨s, ctx.zone⟩ = some l := by
    rw [Instant.local?_eq_some_iff] at shown ⊢
    rw [same]
    exact shown
  have whole := Functions.toInt_ofInt inRange
  refine ⟨n, Int64.ofInt s, isInteger, ?_, ?_, ?_, ?_⟩
  · exact unix_timestamp_of_parse compiled parsed found
  · rw [whole]
    exact notAfter
  · rw [← whole] at inRange shownAgain
    exact date_format_of_local? compiled rfl inRange shownAgain year
  · intro once
    have back : s = n.toInt := once s inRange same
    rw [back]
    exact Int64.ofInt_toInt n

/-- **The text that `date_format` writes is read back exactly when the pattern
has no blank end**: `unix_timestamp` then finds an instant that is not after
the one that was written and of which the same text is written. -/
theorem readsBack_dateFormat (sound : cache.IsSound) (compiled : DatePattern.compile source = .ok p)
    (complete : p.IsComplete)
    (formatted : ((call ctx "date_format" [v, .text source]).runWith cache).1 = .ok (.text text)) :
    (p.hasBlankEnd = false →
      ∃ n e : Int64, v.asInteger? = some n ∧ ReadsBack ctx source text n e) ∧
    (p.hasBlankEnd = true →
      ∃ detail, Gives ctx "unix_timestamp" [.text text, .text source]
        (.error (.failed (.value "unix_timestamp" detail)))) := by
  constructor
  · intro noBlank
    exact exists_readsBack sound compiled complete noBlank formatted
  · intro blank
    exact unix_timestamp_of_blankEnd compiled blank ctx text

end Calls

/-- Clocks that are set back at 90000 show this local time twice. -/
theorem readsBack_dateFormat_setBack :
    ∃ n e : Int64, (Value.text " 90000").asInteger? = some n ∧
      ReadsBack ⟨⟨"Back", 7200, [(90000, 3600)], by decide, by decide⟩, []⟩
        "'T'yyyyMMdd-HHmmss" "T19700102-020000" n e := by
  have compiled : DatePattern.compile "'T'yyyyMMdd-HHmmss" = .ok ⟨"'T'yyyyMMdd-HHmmss",
      [.literal ['T'], .year, .month, .day, .literal ['-'], .hour, .minute, .second]⟩ := by
    decide
  have complete : DatePattern.IsComplete ⟨"'T'yyyyMMdd-HHmmss",
      [.literal ['T'], .year, .month, .day, .literal ['-'], .hour, .minute, .second]⟩ := by
    unfold DatePattern.IsComplete
    decide
  have formatted : ((call ⟨⟨"Back", 7200, [(90000, 3600)], by decide, by decide⟩, []⟩ "date_format"
      [.text " 90000", .text "'T'yyyyMMdd-HHmmss"]).runWith ∅).1
        = .ok (.text "T19700102-020000") := by
    rfl
  exact (readsBack_dateFormat Cache.isSound_empty compiled complete formatted).1 (by decide)

/-- A blank behind the seconds is written, and then it is not read. -/
theorem not_readsBack_blankBehind :
    ∃ p, DatePattern.compile "yyyy-MM-dd HH:mm:ss " = .ok p ∧ p.IsComplete ∧
      Gives ⟨Zone.utc, []⟩ "date_format" [.integer 0, .text "yyyy-MM-dd HH:mm:ss "]
        (.ok (.text "1970-01-01 00:00:00 ")) ∧
      ¬ ∃ n e, ReadsBack ⟨Zone.utc, []⟩ "yyyy-MM-dd HH:mm:ss " "1970-01-01 00:00:00 " n e := by
  obtain ⟨p, hp⟩ : ∃ p : DatePattern, p = ⟨"yyyy-MM-dd HH:mm:ss ",
      [.year, .literal ['-'], .month, .literal ['-'], .day, .literal [' '], .hour, .literal [':'],
        .minute, .literal [':'], .second, .literal [' ']]⟩ := ⟨_, rfl⟩
  have compiled : DatePattern.compile "yyyy-MM-dd HH:mm:ss " = .ok p := by
    rw [hp]
    decide
  refine ⟨p, compiled, ?_, ?_, ?_⟩
  · rw [hp]
    unfold DatePattern.IsComplete
    decide
  · have written : Gives ⟨Zone.utc, []⟩ "date_format"
        [.integer 0, .text "yyyy-MM-dd HH:mm:ss "]
        (.ok (.text (p.format ⟨⟨1970, 1, 1⟩, 0, 0, 0⟩))) :=
      date_format_of_local? compiled rfl (by decide) (by decide) (by decide)
    rw [hp] at written
    exact written
  · rintro ⟨n, e, readsBack⟩
    have blank : p.hasBlankEnd = true := by
      rw [hp]
      decide
    obtain ⟨detail, refused⟩ := unix_timestamp_of_blankEnd compiled blank ⟨Zone.utc, []⟩
      "1970-01-01 00:00:00 "
    have given := readsBack.read _ Cache.isSound_empty
    rw [refused _ Cache.isSound_empty] at given
    cases given

end Builtin

end Recordwise
