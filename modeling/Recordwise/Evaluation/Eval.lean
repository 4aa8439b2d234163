/-
  Recordwise.Evaluation.Eval
  ──────────────────────────
  **Computations that keep compiled patterns.**

  Evaluation threads the cache of compiled patterns from step to step, past
  failures too.  It can stop for two reasons: a failure, which belongs to one
  field or one record, or an instant whose local time leaves the calendar,
  which no caller recovers from.  Main statement:

      pattern_runWith_fst — over a sound cache, asking for a pattern is compiling
                        it
-/
import Recordwise.DatePattern.Cache
import Recordwise.Failure

namespace Recordwise

/-- Why evaluation stops. -/
inductive Halt where
  /-- A failure that the caller may record and go on from. -/
  | failed (f : Failure)
  /-- A local time outside the calendar's range was asked for. -/
  | offCalendar
  deriving Repr, DecidableEq

/-- A computation over the cache of compiled patterns. -/
abbrev Eval (α : Type) := ExceptT Halt (StateM DatePattern.Cache) α

namespace Eval

/-- Stop with a failure. -/
def fail {α : Type} (f : Failure) : Eval α := throw (.failed f)

/-- Stop because a local time is outside the calendar's range. -/
def offCalendar {α : Type} : Eval α := throw .offCalendar

/-- Go on with a result, or stop with its failure. -/
def ofExcept {α : Type} : Except Failure α → Eval α
  | .ok a => pure a
  | .error f => fail f

/-- The result of a computation, and the cache it leaves. -/
def runWith {α : Type} (x : Eval α) (cache : DatePattern.Cache) :
    Except Halt α × DatePattern.Cache :=
  ExceptT.run x cache

/-- The compiled pattern of a text, from the cache if it is there; a refusal
is one of the function that asks. -/
def pattern (function source : String) : Eval DatePattern := do
  let (result, cache) := (← get).get source
  -- the cache outlives a refusal
  set cache
  match result with
  | .ok p => pure p
  | .error e => fail (.value function (e.message source))

/-- Over a sound cache, asking for a pattern is compiling it. -/
theorem pattern_runWith_fst {cache : DatePattern.Cache} (h : cache.IsSound)
    (function source : String) :
    ((pattern function source).runWith cache).1 =
      match DatePattern.compile source with
      | .ok p => .ok p
      | .error e => .error (.failed (.value function (e.message source))) := by
  rw [← DatePattern.Cache.fst_get h source]
  show ((match (cache.get source).1 with
      | .ok p => pure p
      | .error e => fail (.value function (e.message source)) : Eval DatePattern).runWith
        (cache.get source).2).1 = _
  cases (cache.get source).1 with
  | ok p => rfl
  | error e => rfl

end Eval

end Recordwise
