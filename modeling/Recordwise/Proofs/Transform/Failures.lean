/-
  Recordwise.Proofs.Transform.Failures
  ────────────────────────────────────
  **How a created transform can fail.**

  Once a transform is created, its statement and its settings are behind it:
  no record makes them fail.  A record is rejected by the decoder, by a
  function in the condition, or by the encoder.  And no call that was checked
  misses an argument, be it in an output or in the condition.  Main
  statements:

      outcome_eq_failed     — the three places where a run can fail
      failures_of_create    — what fails there, and what an output can fail
                              with
-/
import Recordwise.Proofs.Evaluation.Refusing
import Recordwise.Proofs.Record.Rejecting
import Recordwise.Proofs.Transform.Contributions
import Recordwise.Proofs.Transform.Creation
import Recordwise.Proofs.Transform.History

namespace Recordwise

open Query

/-! ## §1. Resolved expressions are checked. -/

/-- The expressions of a plan are checked, those of the condition too. -/
theorem Query.checked_of_resolve {s : Statement} {source sink : List String} {plan : Plan}
    (resolved : s.resolve source sink = .ok plan) :
    (∀ o ∈ plan.outputs, check source o.expr = .ok ()) ∧
      ∀ c, plan.condition? = some c → ∀ e ∈ c.expressions, check source e = .ok () := by
  obtain ⟨each, checked, pairs, -, condition⟩ := resolve_eq_ok_iff.1 resolved
  constructor
  · intro o listed
    -- an output has the expression of an entry
    have paired : o.toPair ∈ namedExprs sink 0 s.items := pairs ▸ List.mem_map_of_mem listed
    obtain ⟨p, from_items, same⟩ := List.mem_map.1 paired
    have item : p.1 ∈ s.items :=
      List.mem_of_getElem? (List.mem_zipIdx_iff_getElem?.1 from_items)
    have expr : p.1.expr = o.expr := congrArg Prod.snd same
    rw [← expr]
    exact (each p.1 item).1
  · rw [condition]
    exact checkCondition_eq_ok_iff.1 checked

namespace Transform

variable {t : Transform}

/-! ## §2. Where a run can fail. -/

/-- Binding outputs never fails: it may only leave the calendar. -/
theorem produced_ne_failed (s : Scope) (f : Failure) : t.produced s ≠ .error (.failed f) := by
  intro failed
  have stops : ∀ h, .error h ∈ t.plan.outputs.map s.contribution → h = .offCalendar :=
    fun _ => s.eq_offCalendar_of_mem_contributions
  unfold produced at failed
  by_cases off : .error .offCalendar ∈ t.plan.outputs.map s.contribution
  · rw [Binding.extendAll_offCalendar stops off] at failed
    cases failed
  · obtain ⟨ps, all⟩ := exists_map_ok fun h listed => off (stops h listed ▸ listed)
    rw [all, Binding.extendAll_ok] at failed
    cases failed

/-- A record fails between decoder and encoder only where its condition
does. -/
theorem evaluated_eq_failed {s : Scope} {f : Failure}
    (failed : t.evaluated s = .error (.failed f)) :
    ∃ c, t.plan.condition? = some c ∧ s.truth c = .error (.failed f) := by
  unfold evaluated passes at failed
  cases condition : t.plan.condition? with
  | none =>
      rw [condition] at failed
      exact absurd failed (produced_ne_failed s f)
  | some c =>
      rw [condition] at failed
      cases truth : s.truth c with
      | error h =>
          rw [Option.map_some, Option.getD_some, truth] at failed
          obtain rfl : h = .failed f := Except.error.inj failed
          exact ⟨c, rfl, truth⟩
      | ok holds =>
          rw [Option.map_some, Option.getD_some, truth] at failed
          cases holds with
          | true => exact absurd failed (produced_ne_failed s f)
          | false => cases failed

/-- **A run fails in the decoder, in the condition or in the encoder.** -/
theorem outcome_eq_failed {bytes : List UInt8} {parameters : Parameters} {f : Failure}
    (failed : t.outcome bytes parameters = .error (.failed f)) :
    t.decoder.decode bytes = .error f ∨
      ∃ record, t.decoder.decode bytes = .ok record ∧
        ((∃ c, t.plan.condition? = some c ∧
            (Scope.mk t.context record parameters).truth c = .error (.failed f)) ∨
          ∃ output, t.evaluated ⟨t.context, record, parameters⟩ = .ok (some output) ∧
            t.encoder.encode output = .error f) := by
  unfold outcome at failed
  cases decoded : t.decoder.decode bytes with
  | error g =>
      rw [decoded] at failed
      cases failed
      exact .inl rfl
  | ok record =>
      rw [decoded] at failed
      have failed : (t.evaluated ⟨t.context, record, parameters⟩ >>= t.delivered) =
          .error (.failed f) := failed
      refine .inr ⟨record, rfl, ?_⟩
      cases evaluated : t.evaluated ⟨t.context, record, parameters⟩ with
      | error h =>
          rw [evaluated] at failed
          obtain rfl : h = .failed f := Except.error.inj failed
          exact .inl (evaluated_eq_failed evaluated)
      | ok output? =>
          rw [evaluated] at failed
          cases output? with
          | none => cases failed
          | some output =>
              have failed : ((t.encoder.encode output).map fun text => [text]).mapError
                  Halt.failed = .error (.failed f) := failed
              cases encoded : t.encoder.encode output with
              | ok text =>
                  rw [encoded] at failed
                  cases failed
              | error g =>
                  rw [encoded] at failed
                  cases failed
                  exact .inr ⟨output, rfl, encoded⟩

/-! ## §3. What can fail there. -/

/-- **How a created transform can fail.**  A run fails with the decode failure
of its decoder, with the value failure of its condition, or with the encode
failure of its encoder.  And the expression of an output, in whatever plan
and for whatever record, gives a value, leaves the calendar, or fails with a
value failure that is not about a missing argument. -/
theorem failures_of_create {zones : Zone.Database} {settings : Settings} {source sink : Schema}
    {log : List Log.Entry} (created : create zones settings source sink = .ok (t, log)) :
    (∀ bytes parameters earlier f,
      (t.run bytes parameters (t.cacheAfter earlier)).result = .error (.failed f) →
        (t.decoder.decode bytes = .error f ∧ f.IsDecode) ∨
        ∃ record, t.decoder.decode bytes = .ok record ∧
          ((∃ c, t.plan.condition? = some c ∧
              (((Scope.mk t.context record parameters).holds c).runWith
                (t.cacheAfter earlier)).1 = .error (.failed f) ∧ f.IsRefusal) ∨
            ∃ output, (t.evaluate record parameters (t.cacheAfter earlier)).result =
                .ok (some output) ∧
              t.encoder.encode output = .error f ∧ f.IsEncode)) ∧
      ∀ (s : Statement) (columns names : List String) plan, s.resolve columns names = .ok plan →
        ∀ o ∈ plan.outputs, ∀ (scope : Scope) cache,
          (∃ v, ((scope.evaluate o.expr).runWith cache).1 = .ok v) ∨
            ((scope.evaluate o.expr).runWith cache).1 = .error .offCalendar ∨
            ∃ f, ((scope.evaluate o.expr).runWith cache).1 = .error (.failed f) ∧
              f.IsRefusal := by
  constructor
  · intro bytes parameters earlier f failed
    have sound := t.isSound_cacheAfter earlier
    obtain ⟨-, -, -, s, -, resolved, -⟩ := create_eq_ok_iff.1 created
    rw [result_run_of_calls] at failed
    rcases outcome_eq_failed failed with rejected | ⟨record, decoded, behind⟩
    · exact .inl ⟨rejected, t.decoder.decode_failsWith bytes f rejected⟩
    · refine .inr ⟨record, decoded, ?_⟩
      rcases behind with ⟨c, condition, truth⟩ | ⟨output, evaluated, unwritten⟩
      · have holds : (((Scope.mk t.context record parameters).holds c).runWith
            (t.cacheAfter earlier)).1 = .error (.failed f) :=
          ((Scope.steady_holds _ c).fst_eq sound).trans truth
        have checked := (checked_of_resolve resolved).2 c condition
        exact .inl ⟨c, condition, holds, Scope.holds_failsWith checked _ f holds⟩
      · refine .inr ⟨output, ?_, unwritten, t.encoder.encode_failsWith output f unwritten⟩
        rw [(t.isSettled_evaluate record parameters _ sound).1]
        exact evaluated
  · intro s columns names plan resolved o listed scope cache
    have checked := (checked_of_resolve resolved).1 o listed
    cases ran : ((scope.evaluate o.expr).runWith cache).1 with
    | ok v => exact .inl ⟨v, rfl⟩
    | error h =>
        cases h with
        | offCalendar => exact .inr (.inl rfl)
        | failed f =>
            exact .inr (.inr ⟨f, rfl, Scope.evaluate_failsWith checked cache f ran⟩)

/-- A year that the record does not have rejects it where the condition asks
for it, and would drop the field where the output does. -/
theorem failures_of_create_year :
    ∃ t log f record c, create .tabulated
        ⟨"select year(a) as x from s where year(a) is null", "UTC", ["yyyy"]⟩
        ⟨"UTF-8", .defaultDelimited, [⟨"a", none, false⟩]⟩
        ⟨"UTF-8", .defaultKeyed, [⟨"x", none, false⟩]⟩ = .ok (t, log) ∧
      (t.run [113] [] .empty).result = .error (.failed f) ∧
      t.decoder.decode [113] = .ok record ∧ t.plan.condition? = some c ∧
      (((Scope.mk t.context record []).holds c).runWith .empty).1 = .error (.failed f) ∧
      f.IsRefusal ∧
      ∃ g, (((Scope.mk t.context record []).evaluate (.call "year" [.column "a"])).runWith
        .empty).1 = .error (.failed g) ∧ g.IsRefusal := by
  have parsed : parseStatement "select year(a) as x from s where year(a) is null" =
      .ok ⟨[⟨.call "year" [.column "a"], some "x"⟩], "s",
        some (.isNull (.call "year" [.column "a"]) false)⟩ :=
    parseStatement_of_tokens
      (show tokens? _ = some [.word "select", .word "year", .opening, .word "a", .closing,
        .word "as", .word "x", .word "from", .word "s", .word "where", .word "year", .opening,
        .word "a", .closing, .word "is", .word "null"] by decide +kernel) rfl
  have resolved : Statement.resolve ⟨[⟨.call "year" [.column "a"], some "x"⟩], "s",
      some (.isNull (.call "year" [.column "a"]) false)⟩ ["a"] ["x"] =
      .ok ⟨[⟨"x", .call "year" [.column "a"]⟩],
        some (.isNull (.call "year" [.column "a"]) false)⟩ := rfl
  have created : ∃ log, create .tabulated
      ⟨"select year(a) as x from s where year(a) is null", "UTC", ["yyyy"]⟩
      ⟨"UTF-8", .defaultDelimited, [⟨"a", none, false⟩]⟩
      ⟨"UTF-8", .defaultKeyed, [⟨"x", none, false⟩]⟩ =
      .ok (⟨⟨[⟨"x", .call "year" [.column "a"]⟩],
          some (.isNull (.call "year" [.column "a"]) false)⟩,
        ⟨Zone.utc, [⟨"yyyy", [.year]⟩]⟩,
        ⟨.utf8, .defaultDelimited, [⟨"a", none, false⟩]⟩,
        ⟨.utf8, .defaultKeyed, [⟨"x", none, false⟩]⟩⟩, log) :=
    exists_create rfl rfl (context_utc_year _) parsed resolved
  obtain ⟨log, created⟩ := created
  obtain ⟨runs, outputs⟩ := failures_of_create created
  refine ⟨_, log, .value "year" "'q' does not match any known date format",
    .ofList [("a", .text "q")], _, created, rfl, rfl, rfl, rfl, ?_, ?_⟩
  · -- the decoder did not fail, and an encoder does not fail with a value failure
    rcases runs [113] [] [] (.value "year" "'q' does not match any known date format") rfl with
      ⟨-, d, decoded⟩ | ⟨record, -, ⟨c, -, -, refusal⟩ | ⟨output, -, -, d, encoded⟩⟩
    · cases decoded
    · exact refusal
    · cases encoded
  · rcases outputs _ ["a"] ["x"] _ resolved ⟨"x", .call "year" [.column "a"]⟩ List.mem_cons_self
      ⟨⟨Zone.utc, [⟨"yyyy", [.year]⟩]⟩, .ofList [("a", .text "q")], []⟩ .empty with
      ⟨v, given⟩ | off | refused
    · cases given
    · cases off
    · exact refused

end Transform

end Recordwise
