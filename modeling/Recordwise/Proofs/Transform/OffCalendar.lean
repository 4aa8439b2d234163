/-
  Recordwise.Proofs.Transform.OffCalendar
  ───────────────────────────────────────
  **When a run leaves the calendar.**

  Evaluation leaves the calendar only by a call, and a run only by evaluation:
  where the zone has no count of seconds whose local time is outside the
  calendar's range, no record ends a run that way.  Where it has one, a record
  can.  Main statements:

      evaluate_leavesFor           — expressions, whatever the record
      exists_overshoots_of_outcome — runs
      offCalendar_iff              — which calls leave the calendar, and what
                                     it takes for a run
-/
import Recordwise.Proofs.Functions.OffCalendar
import Recordwise.Proofs.Record.Transport
import Recordwise.Proofs.Transform.Failures

namespace Recordwise

open Calendar Eval Query
open DatePattern (Cache)

/-! ## §1. Expressions and conditions. -/

theorem Builtin.call_leavesFor (ctx : Context) (function : String) (args : List Value) :
    (call ctx function args).LeavesFor ctx.zone := by
  unfold call
  cases check function args.length with
  | ok b => exact Functions.apply_leavesFor ctx b args
  | error e => exact .fail _

namespace Scope

variable (s : Scope)

/-- **An expression leaves the calendar only for a count that overshoots**, in
the zone of the settings and whatever the record. -/
theorem evaluate_leavesFor (e : Expr) : (s.evaluate e).LeavesFor s.context.zone :=
  evaluate_of_isClosed LeavesFor.isClosed (Builtin.call_leavesFor s.context) e

/-- **So does a condition.** -/
theorem holds_leavesFor (c : Condition) : (s.holds c).LeavesFor s.context.zone :=
  holds_of_isClosed LeavesFor.isClosed (Builtin.call_leavesFor s.context) c

end Scope

/-! ## §2. Runs. -/

namespace Transform

variable {t : Transform} {s : Scope}

theorem exists_overshoots_of_evaluated (left : t.evaluated s = .error .offCalendar) :
    ∃ n : Int64, s.context.zone.Overshoots n.toInt := by
  unfold evaluated at left
  cases asked : t.passes s with
  | ok holds =>
      rw [asked] at left
      cases holds with
      | false => cases left
      | true =>
          -- binding never leaves the calendar: it was one of the outputs
          obtain ⟨o, -, off⟩ := produced_eq_offCalendar_iff.1 left
          exact s.evaluate_leavesFor o.expr .empty off
  | error h =>
      rw [asked] at left
      obtain rfl : h = .offCalendar := Except.error.inj left
      unfold passes at asked
      cases condition : t.plan.condition? with
      | none =>
          rw [condition] at asked
          cases asked
      | some c =>
          rw [condition] at asked
          exact s.holds_leavesFor c .empty asked

/-- **A run leaves the calendar only where the zone has a count that
overshoots.** -/
theorem exists_overshoots_of_outcome {bytes : List UInt8} {parameters : Parameters}
    (left : t.outcome bytes parameters = .error .offCalendar) :
    ∃ n : Int64, t.context.zone.Overshoots n.toInt := by
  unfold outcome at left
  cases decoded : t.decoder.decode bytes with
  | error f =>
      rw [decoded] at left
      cases left
  | ok record =>
      rw [decoded] at left
      have left : t.evaluated ⟨t.context, record, parameters⟩ >>= t.delivered =
          .error .offCalendar := left
      cases evaluated : t.evaluated ⟨t.context, record, parameters⟩ with
      | error h =>
          rw [evaluated] at left
          obtain rfl : h = .offCalendar := Except.error.inj left
          exact exists_overshoots_of_evaluated evaluated
      | ok output? =>
          rw [evaluated] at left
          -- what is delivered was written, or refused by the encoder
          cases output? with
          | none => cases left
          | some output =>
              have left : ((t.encoder.encode output).map fun text => [text]).mapError
                  Halt.failed = .error .offCalendar := left
              cases written : t.encoder.encode output with
              | ok text =>
                  rw [written] at left
                  cases left
              | error f =>
                  rw [written] at left
                  cases left

end Transform

/-! ## §3. Calls and runs. -/

theorem Builtin.call_from_unixtime (ctx : Context) (v : Value) :
    call ctx "from_unixtime" [v] = Functions.fromUnixtime ctx [v] :=
  call_of_check (b := .fromUnixtime) (by show check "from_unixtime" 1 = _; decide) ctx

/-- **Which calls leave the calendar, and what it takes for a run.**
`date_format` does so exactly when its value is a count in the calendar's range
whose local time is outside it and its pattern compiles, `from_unixtime`
exactly when its value is such a count; otherwise both give a result or refuse
an argument.  Such a count is less than a day from an end of the range.  And a
run, of whatever transform and for whatever record, leaves the calendar only in
a zone that has such a count. -/
theorem offCalendar_iff (ctx : Context) {cache : Cache} (sound : cache.IsSound) (v w : Value) :
    ((((Builtin.call ctx "date_format" [v, w]).runWith cache).1 = .error .offCalendar ↔
          (∃ n, v.asInteger? = some n ∧ ctx.zone.Overshoots n.toInt) ∧
            ∃ source p, w.text? = some source ∧ DatePattern.compile source = .ok p) ∧
        ∀ f, ((Builtin.call ctx "date_format" [v, w]).runWith cache).1 = .error (.failed f) →
          f.IsRefusal) ∧
      ((((Builtin.call ctx "from_unixtime" [v]).runWith cache).1 = .error .offCalendar ↔
          ∃ n, v.asInteger? = some n ∧ ctx.zone.Overshoots n.toInt) ∧
        ∀ f, ((Builtin.call ctx "from_unixtime" [v]).runWith cache).1 = .error (.failed f) →
          f.IsRefusal) ∧
      (∀ n, ctx.zone.Overshoots n → n < earliest + 86400 ∨ latest - 86400 < n) ∧
      ∀ t : Transform, t.context = ctx → ∀ bytes parameters calls,
        (t.run bytes parameters (t.cacheAfter calls)).result = .error .offCalendar →
          ∃ n : Int64, ctx.zone.Overshoots n.toInt := by
  rw [Builtin.call_date_format, Builtin.call_from_unixtime]
  refine ⟨⟨Functions.dateFormat_eq_offCalendar_iff sound v w, ?_⟩,
    ⟨Functions.fromUnixtime_eq_offCalendar_iff sound v, ?_⟩,
    fun n => Zone.near_end_of_overshoots, ?_⟩
  · have enough : 2 ≤ [v, w].length := Nat.le_refl 2
    exact Functions.dateFormat_failsWith enough cache
  · have enough : 1 ≤ [v].length := Nat.le_refl 1
    exact Functions.fromUnixtime_failsWith enough cache
  · rintro t rfl bytes parameters calls left
    rw [Transform.result_run_of_calls] at left
    exact Transform.exists_overshoots_of_outcome left

/-- The last second of the calendar's range is the next morning in
Shanghai. -/
theorem offCalendar_iff_shanghai :
    (∀ source ∈ ["yyyy", "HH:mm:ss"], ((Builtin.call ⟨Zone.shanghai, []⟩ "date_format"
        [.integer 8210266876799, .text source]).runWith .empty).1 = .error .offCalendar) ∧
      ((Builtin.call ⟨Zone.shanghai, []⟩ "date_format"
        [.integer 8210266876799, .text "y"]).runWith .empty).1 ≠ .error .offCalendar ∧
      ((Builtin.call ⟨Zone.shanghai, []⟩ "from_unixtime"
        [.integer 8210266876799]).runWith .empty).1 = .error .offCalendar := by
  have beyond : Zone.shanghai.Overshoots (Int64.toInt 8210266876799) :=
    ⟨by decide +kernel, by decide +kernel⟩
  refine ⟨?_, ?_, ?_⟩
  · intro source listed
    refine ((offCalendar_iff ⟨Zone.shanghai, []⟩ Cache.isSound_empty (.integer 8210266876799)
      (.text source)).1.1.2 ⟨⟨_, rfl, beyond⟩, source, ?_⟩)
    rcases List.mem_pair.1 listed with rfl | rfl
    · exact ⟨_, rfl, rfl⟩
    · exact ⟨_, rfl, rfl⟩
  · intro left
    obtain ⟨-, source, p, text, compiled⟩ := (offCalendar_iff ⟨Zone.shanghai, []⟩
      Cache.isSound_empty (.integer 8210266876799) (.text "y")).1.1.1 left
    cases text
    cases compiled
  · exact (offCalendar_iff ⟨Zone.shanghai, []⟩ Cache.isSound_empty (.integer 8210266876799)
      .null).2.1.1.2 ⟨_, rfl, beyond⟩

/-- A record that holds the last second of the calendar's range ends the run in
Shanghai. -/
theorem not_stays_on_calendar_shanghai :
    ∃ t log, Transform.create .tabulated
        ⟨"select from_unixtime(a) as x from s", "Asia/Shanghai", ["yyyy"]⟩
        ⟨"UTF-8", .defaultDelimited, [⟨"a", none, false⟩]⟩
        ⟨"UTF-8", .defaultKeyed, [⟨"x", none, false⟩]⟩ = .ok (t, log) ∧
      (t.run (Charset.utf8.encode "8210266876799".toList) [] .empty).result =
        .error .offCalendar := by
  have parsed : parseStatement "select from_unixtime(a) as x from s" =
      .ok ⟨[⟨.call "from_unixtime" [.column "a"], some "x"⟩], "s", none⟩ :=
    parseStatement_of_tokens
      (show tokens? _ = some [.word "select", .word "from_unixtime", .opening, .word "a",
        .closing, .word "as", .word "x", .word "from", .word "s"] by decide +kernel) rfl
  have zone : Zone.ofName .tabulated "Asia/Shanghai" = .ok Zone.shanghai := by decide +kernel
  have context : Settings.context .tabulated
      ⟨"select from_unixtime(a) as x from s", "Asia/Shanghai", ["yyyy"]⟩ =
      .ok ⟨Zone.shanghai, [⟨"yyyy", [.year]⟩]⟩ :=
    bind_eq_ok_iff.2 ⟨Zone.shanghai, zone, rfl⟩
  have created : ∃ log, Transform.create .tabulated
      ⟨"select from_unixtime(a) as x from s", "Asia/Shanghai", ["yyyy"]⟩
      ⟨"UTF-8", .defaultDelimited, [⟨"a", none, false⟩]⟩
      ⟨"UTF-8", .defaultKeyed, [⟨"x", none, false⟩]⟩ =
      .ok (⟨⟨[⟨"x", .call "from_unixtime" [.column "a"]⟩], none⟩,
        ⟨Zone.shanghai, [⟨"yyyy", [.year]⟩]⟩,
        ⟨.utf8, .defaultDelimited, [⟨"a", none, false⟩]⟩,
        ⟨.utf8, .defaultKeyed, [⟨"x", none, false⟩]⟩⟩, log) :=
    Transform.exists_create rfl rfl context parsed rfl
  obtain ⟨log, created⟩ := created
  refine ⟨_, log, created, ?_⟩
  have read : Charset.utf8.decode (Charset.utf8.encode "8210266876799".toList) = .ok _ :=
    Charset.decode_encode_of_has fun _ _ => rfl
  have decoded : Codec.decode ⟨.utf8, .defaultDelimited, [⟨"a", none, false⟩]⟩
      (Charset.utf8.encode "8210266876799".toList) =
      .ok (.ofList [("a", .text "8210266876799")]) := by
    rw [Codec.decode, read]
    decide +kernel
  have integer : (Value.text "8210266876799").asInteger? = some 8210266876799 := by decide +kernel
  have beyond : Zone.shanghai.Overshoots (Int64.toInt 8210266876799) :=
    ⟨by decide +kernel, by decide +kernel⟩
  have left : Scope.value ⟨⟨Zone.shanghai, [⟨"yyyy", [.year]⟩]⟩,
      .ofList [("a", .text "8210266876799")], []⟩ (.call "from_unixtime" [.column "a"]) =
      .error .offCalendar :=
    (Functions.fromUnixtime_eq_offCalendar_iff Cache.isSound_empty _).2 ⟨_, integer, beyond⟩
  refine (Transform.result_run_of_calls _ [] _ []).trans ?_
  exact Transform.outcome_of_offCalendar decoded rfl List.mem_cons_self left

end Recordwise
