/-
  Recordwise.Proofs.Transform.Reporting
  ─────────────────────────────────────
  **What a run reports.**

  Errors report rejected records and warnings dropped fields.  A record that
  the decoder or the encoder refuses is reported by one error, and every field
  whose expression fails by one warning, in the order of the outputs.  A
  record that is rejected because its condition fails is not reported at all.
  Main statements:

      linesAt_fill     — the warnings of outputs, one for each that fails
      linesAt_evaluate — filtering and binding report nothing else
      linesAt_run      — the errors and the warnings of a run
-/
import Mathlib.Data.List.TakeWhile
import Recordwise.Proofs.Transform.Failures

namespace Recordwise

open DatePattern (Cache)
open Log Query

/-! ## §1. The lines of a level. -/

namespace Log

/-- The texts of the entries of a level, in order. -/
def linesAt (level : Level) (log : List Entry) : List String :=
  (log.filter (·.level = level)).map Entry.message

theorem linesAt_append (level : Level) (earlier later : List Entry) :
    linesAt level (earlier ++ later) = linesAt level earlier ++ linesAt level later := by
  unfold linesAt
  rw [List.filter_append, List.map_append]

theorem linesAt_cons_of_eq {level : Level} {e : Entry} (h : e.level = level) (log : List Entry) :
    linesAt level (e :: log) = e.message :: linesAt level log := by
  unfold linesAt
  rw [List.filter_cons_of_pos (by simpa using h), List.map_cons]

theorem linesAt_cons_of_ne {level : Level} {e : Entry} (h : e.level ≠ level) (log : List Entry) :
    linesAt level (e :: log) = linesAt level log := by
  unfold linesAt
  rw [List.filter_cons_of_neg (by simpa using h)]

end Log

/-! ## §2. The lines of outputs. -/

namespace Scope

/-- The line that reports a dropped field; `none` when the expression of the
output does not fail. -/
def warning? (s : Scope) (o : Output) : Option String :=
  match s.value o.expr with
  | .error (.failed f) => some ("Dropping field: " ++ (Failure.evaluation o.name f).message)
  | _ => none

/-- The outputs that are evaluated: all of them, unless one leaves the
calendar and stops the run. -/
def reached (s : Scope) (os : List Output) : List Output :=
  os.takeWhile fun o => s.value o.expr ≠ .error .offCalendar

theorem reached_cons_of_ne {s : Scope} {o : Output} (h : s.value o.expr ≠ .error .offCalendar)
    (os : List Output) : s.reached (o :: os) = o :: s.reached os :=
  List.takeWhile_cons_of_pos (by simpa using h)

/-- Where no output leaves the calendar, all are evaluated. -/
theorem reached_eq_self {s : Scope} {os : List Output}
    (h : ∀ o ∈ os, s.value o.expr ≠ .error .offCalendar) : s.reached os = os :=
  List.takeWhile_eq_self_iff.2 fun o listed => by simpa using h o listed

end Scope

namespace Transform

/-- **The lines of outputs**: one warning for each that fails, in order, and no
error. -/
theorem linesAt_fill (s : Scope) (os : List Output) (b : Binding) {cache : Cache}
    (sound : cache.IsSound) :
    linesAt .warn (fill s os b cache).log = (s.reached os).filterMap s.warning? ∧
      linesAt .error (fill s os b cache).log = [] := by
  -- every output finds the cache of the one before it, which stays sound
  induction os generalizing b cache with
  | nil => exact ⟨rfl, rfl⟩
  | cons o os ih =>
      have same : ((s.evaluate o.expr).runWith cache).1 = s.value o.expr :=
        (s.steady_evaluate o.expr).fst_eq sound
      have kept := (s.steady_evaluate o.expr).isSound sound
      rw [fill]
      rcases asked : (s.evaluate o.expr).runWith cache with ⟨result, next⟩
      rw [asked] at same kept
      have same : s.value o.expr = result := same.symm
      cases result with
      | ok v =>
          -- an output that does not fail adds neither a warning nor an error
          have silent : s.warning? o = none := by rw [Scope.warning?, same]
          have stays : s.value o.expr ≠ .error .offCalendar := by simp [same]
          rw [Scope.reached_cons_of_ne stays, List.filterMap_cons_none silent]
          cases v with
          | null => exact ih b kept
          | _ => exact ih (b.insert o.name _) kept
      | error h =>
          cases h with
          | failed f =>
              have reported : s.warning? o =
                  some ("Dropping field: " ++ (Failure.evaluation o.name f).message) := by
                rw [Scope.warning?, same]
              obtain ⟨warnings, errors⟩ := ih b kept
              have stays : s.value o.expr ≠ .error .offCalendar := by simp [same]
              have entry : (Entry.dropped (.evaluation o.name f)).level = .warn := rfl
              rw [Scope.reached_cons_of_ne stays, List.filterMap_cons_some reported, ← warnings]
              exact ⟨linesAt_cons_of_eq entry _,
                (linesAt_cons_of_ne (by simp [entry]) _).trans errors⟩
          | offCalendar =>
              -- the run ends here: the outputs behind are not evaluated
              have stopped : s.reached (o :: os) = [] :=
                List.takeWhile_cons_of_neg (by simp [same])
              rw [stopped]
              exact ⟨rfl, rfl⟩

variable (t : Transform)

/-! ## §3. The lines of a run. -/

theorem linesAt_produce (s : Scope) {cache : Cache} (sound : cache.IsSound) :
    linesAt .warn (t.produce s cache).log = (s.reached t.plan.outputs).filterMap s.warning? ∧
      linesAt .error (t.produce s cache).log = [] := by
  obtain ⟨warnings, errors⟩ := linesAt_fill s t.plan.outputs Binding.empty sound
  unfold produce
  cases filled : (fill s t.plan.outputs Binding.empty cache).result with
  | error h =>
      simp only [filled]
      exact ⟨warnings, errors⟩
  | ok b =>
      simp only [filled]
      by_cases none_survived : (b.isEmpty && !t.plan.outputs.isEmpty) = true
      · -- that nothing survived is neither a warning nor an error
        rw [if_pos none_survived]
        refine ⟨?_, ?_⟩
        · rw [linesAt_append, warnings]
          exact List.append_nil _
        · rw [linesAt_append, errors]
          rfl
      · rw [if_neg none_survived]
        exact ⟨warnings, errors⟩

/-- **Filtering and binding report dropped fields and nothing else**, and none
of a record that does not pass. -/
theorem linesAt_evaluate (record : Binding) (parameters : Parameters) {cache : Cache}
    (sound : cache.IsSound) :
    linesAt .warn (t.evaluate record parameters cache).log =
        (match t.passes ⟨t.context, record, parameters⟩ with
        | .ok true =>
          (Scope.reached ⟨t.context, record, parameters⟩ t.plan.outputs).filterMap
            (Scope.warning? ⟨t.context, record, parameters⟩)
        | _ => []) ∧
      linesAt .error (t.evaluate record parameters cache).log = [] := by
  unfold evaluate passes
  cases t.plan.condition? with
  | none => exact t.linesAt_produce _ sound
  | some c =>
      have same := (Scope.steady_holds ⟨t.context, record, parameters⟩ c).fst_eq sound
      have kept := (Scope.steady_holds ⟨t.context, record, parameters⟩ c).isSound sound
      simp only [Option.map_some, Option.getD_some, Scope.truth]
      rw [← same]
      rcases asked : (Scope.holds ⟨t.context, record, parameters⟩ c).runWith cache with
        ⟨result, next⟩
      rw [asked] at kept
      cases result with
      | error h => exact ⟨rfl, rfl⟩
      | ok holds =>
          cases holds with
          | true => exact t.linesAt_produce _ kept
          | false => exact ⟨rfl, rfl⟩

/-- Why the condition rejects a record: its failure, when the record is read
and the condition fails. -/
def filterFailure? (bytes : List UInt8) (parameters : Parameters) : Option Failure :=
  match t.decoder.decode bytes with
  | .error _ => none
  | .ok record =>
    match t.passes ⟨t.context, record, parameters⟩ with
    | .error (.failed f) => some f
    | _ => none

/-- What the outputs of a run are evaluated in: the scope of the record, when
it is read and passes the filter. -/
def admitted? (bytes : List UInt8) (parameters : Parameters) : Option Scope :=
  match t.decoder.decode bytes with
  | .error _ => none
  | .ok record =>
    match t.passes ⟨t.context, record, parameters⟩ with
    | .ok true => some ⟨t.context, record, parameters⟩
    | _ => none

/-- A record is admitted when it is read and passes the filter. -/
theorem admitted?_eq_some_iff {bytes : List UInt8} {parameters : Parameters} {s : Scope} :
    t.admitted? bytes parameters = some s ↔
      ∃ record, t.decoder.decode bytes = .ok record ∧
        t.passes ⟨t.context, record, parameters⟩ = .ok true ∧
        s = ⟨t.context, record, parameters⟩ := by
  unfold admitted?
  cases t.decoder.decode bytes with
  | error g => simp
  | ok record =>
      cases passed : t.passes ⟨t.context, record, parameters⟩ with
      | error h => simp [passed]
      | ok holds => cases holds <;> simp [passed, eq_comm]

/-- Between decoder and encoder a record fails with the failure of the
condition. -/
theorem filterFailure?_eq_some_iff {bytes : List UInt8} {parameters : Parameters}
    {record : Binding} (decoded : t.decoder.decode bytes = .ok record) {f : Failure} :
    t.filterFailure? bytes parameters = some f ↔
      t.evaluated ⟨t.context, record, parameters⟩ = .error (.failed f) := by
  unfold filterFailure?
  rw [decoded]
  dsimp only
  constructor
  · intro found
    unfold evaluated
    cases asked : t.passes ⟨t.context, record, parameters⟩ with
    | ok holds =>
        rw [asked] at found
        cases found
    | error h =>
        rw [asked] at found
        cases h with
        | offCalendar => cases found
        | failed g =>
            cases found
            rfl
  · intro failed
    obtain ⟨c, condition, truth⟩ := evaluated_eq_failed failed
    rw [passes, condition, Option.map_some, Option.getD_some, truth]

/-- A run that fails reports its failure, unless the condition failed; other
runs report no error. -/
theorem errors_run (bytes : List UInt8) (parameters : Parameters) {cache : Cache}
    (sound : cache.IsSound) :
    (∀ f, (t.run bytes parameters cache).result = .error (.failed f) →
        linesAt .error (t.run bytes parameters cache).log =
          if t.filterFailure? bytes parameters = some f then []
          else ["Rejected record (" ++ f.category.name ++ "): " ++ f.message]) ∧
      ((∀ f, (t.run bytes parameters cache).result ≠ .error (.failed f)) →
        linesAt .error (t.run bytes parameters cache).log = []) := by
  cases decoded : t.decoder.decode bytes with
  | error g =>
      -- a record that is not read does not come to the condition
      have unasked : t.filterFailure? bytes parameters = none := by
        rw [filterFailure?, decoded]
      rw [run_of_decode_error decoded, unasked]
      refine ⟨?_, fun other => absurd rfl (other g)⟩
      intro f failed
      obtain rfl := Halt.failed.inj (Except.error.inj failed)
      rfl
  | ok record =>
      obtain ⟨-, silent⟩ := t.linesAt_evaluate record parameters sound
      have result := (t.isSettled_evaluate record parameters cache sound).1
      have blamed (f : Failure) : t.filterFailure? bytes parameters = some f ↔
          (t.evaluate record parameters cache).result = .error (.failed f) := by
        rw [result]
        exact t.filterFailure?_eq_some_iff decoded
      unfold run
      rw [decoded]
      dsimp only
      cases evaluated : (t.evaluate record parameters cache).result with
      | error h =>
          -- nothing is added to the log of a record whose condition fails
          refine ⟨?_, fun _ => silent⟩
          intro f failed
          obtain rfl : h = .failed f := Except.error.inj failed
          rw [if_pos ((blamed f).2 evaluated)]
          exact silent
      | ok output? =>
          cases output? with
          | none => exact ⟨nofun, fun _ => silent⟩
          | some output =>
              dsimp only
              cases written : t.encoder.encode output with
              | ok text => exact ⟨nofun, fun _ => silent⟩
              | error g =>
                  -- the encoder's failure is not one of the condition: that record passed
                  have passed : t.filterFailure? bytes parameters ≠ some g := by
                    rw [Ne, blamed, evaluated]
                    nofun
                  refine ⟨?_, fun other => absurd rfl (other g)⟩
                  intro f failed
                  obtain rfl := Halt.failed.inj (Except.error.inj failed)
                  rw [if_neg passed, linesAt_append, silent]
                  rfl

/-- A run reports the dropped fields of a record that is admitted, and of no
other. -/
theorem warnings_run (bytes : List UInt8) (parameters : Parameters) {cache : Cache}
    (sound : cache.IsSound) :
    (∀ s, t.admitted? bytes parameters = some s →
        linesAt .warn (t.run bytes parameters cache).log =
          (s.reached t.plan.outputs).filterMap s.warning?) ∧
      (t.admitted? bytes parameters = none →
        linesAt .warn (t.run bytes parameters cache).log = []) := by
  cases decoded : t.decoder.decode bytes with
  | error g =>
      have unread : t.admitted? bytes parameters = none := by rw [admitted?, decoded]
      rw [run_of_decode_error decoded, unread]
      exact ⟨fun s other => (nomatch other), fun _ => rfl⟩
  | ok record =>
      obtain ⟨reported, -⟩ := t.linesAt_evaluate record parameters sound
      -- the encoder may add an error, never a warning
      have kept : linesAt .warn (t.run bytes parameters cache).log =
          linesAt .warn (t.evaluate record parameters cache).log := by
        unfold run
        rw [decoded]
        dsimp only
        cases (t.evaluate record parameters cache).result with
        | error h => rfl
        | ok output? =>
            cases output? with
            | none => rfl
            | some output =>
                dsimp only
                cases t.encoder.encode output with
                | ok text => rfl
                | error g =>
                    dsimp only
                    rw [linesAt_append]
                    exact List.append_nil _
      rw [kept, reported, admitted?, decoded]
      dsimp only
      cases t.passes ⟨t.context, record, parameters⟩ with
      | error h => exact ⟨fun s other => (nomatch other), fun _ => rfl⟩
      | ok holds =>
          cases holds with
          | false => exact ⟨fun s other => (nomatch other), fun _ => rfl⟩
          | true =>
              refine ⟨?_, nofun⟩
              intro s same
              cases same
              rfl

/-- A run that does not leave the calendar evaluates all outputs. -/
theorem reached_of_outcome_ne {bytes : List UInt8} {parameters : Parameters} {s : Scope}
    (admitted : t.admitted? bytes parameters = some s)
    (stays : t.outcome bytes parameters ≠ .error .offCalendar) :
    s.reached t.plan.outputs = t.plan.outputs := by
  obtain ⟨record, decoded, passed, rfl⟩ := t.admitted?_eq_some_iff.1 admitted
  apply Scope.reached_eq_self
  intro o listed off
  exact stays (outcome_of_offCalendar decoded passed listed off)

/-- **The errors and the warnings of a run**, behind whatever calls.  A run
that fails reports its failure by one error, unless the condition failed,
which is not reported; other runs report no error.  And a run reports one
warning for each output whose expression fails, in order, when its record is
read and passes the filter, and otherwise none; all outputs are evaluated
unless the run leaves the calendar. -/
theorem linesAt_run (calls : List Request) (bytes : List UInt8) (parameters : Parameters) :
    (∀ f, (t.run bytes parameters (t.cacheAfter calls)).result = .error (.failed f) →
        linesAt .error (t.run bytes parameters (t.cacheAfter calls)).log =
          if t.filterFailure? bytes parameters = some f then []
          else ["Rejected record (" ++ f.category.name ++ "): " ++ f.message]) ∧
      ((∀ f, (t.run bytes parameters (t.cacheAfter calls)).result ≠ .error (.failed f)) →
        linesAt .error (t.run bytes parameters (t.cacheAfter calls)).log = []) ∧
      (∀ s, t.admitted? bytes parameters = some s →
        linesAt .warn (t.run bytes parameters (t.cacheAfter calls)).log =
            (s.reached t.plan.outputs).filterMap s.warning? ∧
          ((t.run bytes parameters (t.cacheAfter calls)).result ≠ .error .offCalendar →
            s.reached t.plan.outputs = t.plan.outputs)) ∧
      (t.admitted? bytes parameters = none →
        linesAt .warn (t.run bytes parameters (t.cacheAfter calls)).log = []) := by
  have sound := t.isSound_cacheAfter calls
  obtain ⟨rejected, others⟩ := t.errors_run bytes parameters sound
  obtain ⟨reported, silent⟩ := t.warnings_run bytes parameters sound
  refine ⟨rejected, others, ?_, silent⟩
  intro s admitted
  refine ⟨reported s admitted, ?_⟩
  rw [result_run_of_calls]
  exact t.reached_of_outcome_ne admitted

/-- A year that a record does not have is a dropped field; where the sink
requires it, the record is rejected, too. -/
theorem linesAt_run_required :
    ∃ t log s, create .tabulated ⟨"select a as x, year(a) as y from s", "UTC", ["yyyy"]⟩
        ⟨"UTF-8", .defaultDelimited, [⟨"a", none, false⟩]⟩
        ⟨"UTF-8", .defaultKeyed, [⟨"x", none, false⟩, ⟨"y", none, true⟩]⟩ = .ok (t, log) ∧
      t.admitted? [113] [] = some s ∧
      linesAt .warn (t.run [113] [] .empty).log =
        ["Dropping field: Evaluation of field 'y' failed: Value error in year(): "
          ++ "'q' does not match any known date format"] ∧
      linesAt .error (t.run [113] [] .empty).log =
        ["Rejected record (RECORD_BOUNDARY): Encode error: "
          ++ "Required sink field 'y' has no value and no default"] := by
  have parsed : parseStatement "select a as x, year(a) as y from s" =
      .ok ⟨[⟨.column "a", some "x"⟩, ⟨.call "year" [.column "a"], some "y"⟩], "s", none⟩ :=
    parseStatement_of_tokens
      (show tokens? _ = some [.word "select", .word "a", .word "as", .word "x", .comma,
        .word "year", .opening, .word "a", .closing, .word "as", .word "y", .word "from",
        .word "s"] by decide +kernel) rfl
  have created : ∃ log, create .tabulated ⟨"select a as x, year(a) as y from s", "UTC", ["yyyy"]⟩
      ⟨"UTF-8", .defaultDelimited, [⟨"a", none, false⟩]⟩
      ⟨"UTF-8", .defaultKeyed, [⟨"x", none, false⟩, ⟨"y", none, true⟩]⟩ =
      .ok (⟨⟨[⟨"x", .column "a"⟩, ⟨"y", .call "year" [.column "a"]⟩], none⟩,
        ⟨Zone.utc, [⟨"yyyy", [.year]⟩]⟩,
        ⟨.utf8, .defaultDelimited, [⟨"a", none, false⟩]⟩,
        ⟨.utf8, .defaultKeyed, [⟨"x", none, false⟩, ⟨"y", none, true⟩]⟩⟩, log) :=
    exists_create rfl rfl (context_utc_year _) parsed rfl
  obtain ⟨log, created⟩ := created
  obtain ⟨rejected, -, reported, -⟩ := linesAt_run
    ⟨⟨[⟨"x", .column "a"⟩, ⟨"y", .call "year" [.column "a"]⟩], none⟩,
      ⟨Zone.utc, [⟨"yyyy", [.year]⟩]⟩, ⟨.utf8, .defaultDelimited, [⟨"a", none, false⟩]⟩,
      ⟨.utf8, .defaultKeyed, [⟨"x", none, false⟩, ⟨"y", none, true⟩]⟩⟩ [] [113] []
  exact ⟨_, log, _, created, rfl, (reported _ rfl).1, rejected _ rfl⟩

/-- A year that a record does not have rejects the record where the condition
asks for it, and no line says so. -/
theorem not_linesAt_run_year :
    ∃ t log f, create .tabulated ⟨"select a as x from s where year(a) is null", "UTC", ["yyyy"]⟩
        ⟨"UTF-8", .defaultDelimited, [⟨"a", none, false⟩]⟩
        ⟨"UTF-8", .defaultKeyed, [⟨"x", none, false⟩]⟩ = .ok (t, log) ∧
      (t.run [113] [] .empty).result = .error (.failed f) ∧
      linesAt .error (t.run [113] [] .empty).log ≠
        ["Rejected record (" ++ f.category.name ++ "): " ++ f.message] := by
  have parsed : parseStatement "select a as x from s where year(a) is null" =
      .ok ⟨[⟨.column "a", some "x"⟩], "s", some (.isNull (.call "year" [.column "a"]) false)⟩ :=
    parseStatement_of_tokens
      (show tokens? _ = some [.word "select", .word "a", .word "as", .word "x", .word "from",
        .word "s", .word "where", .word "year", .opening, .word "a", .closing, .word "is",
        .word "null"] by decide +kernel) rfl
  have created : ∃ log, create .tabulated
      ⟨"select a as x from s where year(a) is null", "UTC", ["yyyy"]⟩
      ⟨"UTF-8", .defaultDelimited, [⟨"a", none, false⟩]⟩
      ⟨"UTF-8", .defaultKeyed, [⟨"x", none, false⟩]⟩ =
      .ok (⟨⟨[⟨"x", .column "a"⟩], some (.isNull (.call "year" [.column "a"]) false)⟩,
        ⟨Zone.utc, [⟨"yyyy", [.year]⟩]⟩,
        ⟨.utf8, .defaultDelimited, [⟨"a", none, false⟩]⟩,
        ⟨.utf8, .defaultKeyed, [⟨"x", none, false⟩]⟩⟩, log) :=
    exists_create rfl rfl (context_utc_year _) parsed rfl
  obtain ⟨log, created⟩ := created
  refine ⟨_, log, .value "year" "'q' does not match any known date format", created, rfl, ?_⟩
  rw [show (linesAt .error _ : List String) = [] from rfl]
  nofun

end Transform

end Recordwise
