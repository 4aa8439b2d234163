/-
  Recordwise.Proofs.Evaluation.CacheIndependence
  ──────────────────────────────────────────────
  **What evaluation gives does not depend on the patterns kept.**

  A steady computation gives over every sound cache what it gives over the
  empty one, and leaves a sound cache, whether it succeeds or fails.  Asking
  for a pattern is steady, and steps behind one another are steady together;
  everything that is evaluated is made of these.  So a value has no history:
  `Scope.value` is the value over the empty cache, and the value over every
  other.  Main statements:

      IsSteady.bind   — steps behind one another
      steady_apply    — every built-in function is steady
      steady_evaluate — so are expressions
      steady_holds    — and conditions
-/
import Recordwise.Proofs.Evaluation.Closure
import Recordwise.Proofs.Evaluation.Running

namespace Recordwise

open DatePattern (Cache)
open Query

/-! ## §1. Steady computations. -/

/-- A computation whose result does not depend on the patterns kept. -/
structure Eval.IsSteady {α : Type} (x : Eval α) : Prop where
  /-- The result is that over the empty cache. -/
  fst_eq : ∀ {cache : Cache}, cache.IsSound → (x.runWith cache).1 = (x.runWith .empty).1
  /-- The cache stays sound. -/
  isSound : ∀ {cache : Cache}, cache.IsSound → (x.runWith cache).2.IsSound

namespace Eval.IsSteady

variable {α β : Type}

theorem pure (a : α) : IsSteady (Pure.pure a : Eval α) := ⟨fun _ => rfl, fun sound => sound⟩

theorem fail (f : Failure) : IsSteady (Eval.fail f : Eval α) := ⟨fun _ => rfl, fun sound => sound⟩

theorem offCalendar : IsSteady (Eval.offCalendar : Eval α) := ⟨fun _ => rfl, fun sound => sound⟩

theorem ofExcept (x : Except Failure α) : IsSteady (Eval.ofExcept x) := by
  cases x with
  | ok a => exact pure a
  | error f => exact fail f

/-- The pattern of a text is its compilation, kept or not. -/
theorem pattern (function source : String) : IsSteady (Eval.pattern function source) where
  fst_eq sound := by
    rw [pattern_runWith_fst sound, pattern_runWith_fst Cache.isSound_empty]
  isSound sound := by
    rw [runWith_pattern]
    exact Cache.isSound_get sound source

/-- **Steps behind one another**: the second goes on from the same result,
over another sound cache. -/
theorem bind {x : Eval α} {f : α → Eval β} (hx : IsSteady x) (hf : ∀ a, IsSteady (f a)) :
    IsSteady (x >>= f) where
  fst_eq {cache} sound := by
    have same := hx.fst_eq sound
    have here := hx.isSound sound
    have there := hx.isSound Cache.isSound_empty
    rw [runWith_bind, runWith_bind]
    rcases first : x.runWith cache with ⟨result, next⟩
    rcases fresh : x.runWith .empty with ⟨result', next'⟩
    rw [first, fresh] at same
    rw [first] at here
    rw [fresh] at there
    -- one result for both, over two caches that may differ but are sound
    obtain rfl : result = result' := same
    cases result with
    | ok a => exact ((hf a).fst_eq here).trans ((hf a).fst_eq there).symm
    | error h => rfl
  isSound {cache} sound := by
    have here := hx.isSound sound
    rw [runWith_bind]
    rcases first : x.runWith cache with ⟨result, next⟩
    rw [first] at here
    cases result with
    | ok a => exact (hf a).isSound here
    | error h => exact here

theorem isClosed : IsClosed @IsSteady := ⟨pure, bind⟩

end Eval.IsSteady

/-! ## §2. Functions. -/

section Functions

open Eval Functions Calendar

theorem steady_readBy (function source text : String) : IsSteady (readBy function source text) :=
  (IsSteady.pattern function source).bind fun p => .ofExcept (readWith function p text)

theorem steady_renderInstant (function : String) (p : DatePattern) (i : Instant) :
    IsSteady (renderInstant function p i) := by
  unfold renderInstant
  cases i.local? with
  | none => exact .offCalendar
  | some t =>
      by_cases outside : t.year < 0 ∨ 9999 < t.year
      · simp only [outside, if_true]
        exact .fail _
      · simp only [outside, if_false]
        exact .pure _

theorem steady_toDateBy (args : List Value) : IsSteady (toDateBy args) := by
  refine (IsSteady.ofExcept _).bind fun text? => ?_
  cases text? with
  | none => exact .pure _
  | some text =>
      refine (IsSteady.ofExcept _).bind fun source => ?_
      exact (steady_readBy _ source text).bind fun t => .pure _

theorem steady_dateFormat (ctx : Context) (args : List Value) : IsSteady (dateFormat ctx args) := by
  refine (IsSteady.ofExcept _).bind fun instant? => ?_
  cases instant? with
  | none => exact .pure _
  | some i =>
      refine (IsSteady.ofExcept _).bind fun source => ?_
      exact (IsSteady.pattern _ source).bind fun p => steady_renderInstant _ p i

theorem steady_fromUnixtime (ctx : Context) (args : List Value) :
    IsSteady (fromUnixtime ctx args) := by
  refine (IsSteady.ofExcept _).bind fun seconds? => ?_
  cases seconds? with
  | none => exact .pure _
  | some n =>
      refine (IsSteady.ofExcept _).bind fun i => ?_
      exact (IsSteady.pattern _ standardPattern).bind fun p => steady_renderInstant _ p i

theorem steady_localTimeArg (ctx : Context) (args : List Value) (text : String) :
    IsSteady (localTimeArg ctx args text) := by
  unfold localTimeArg
  by_cases patterned : 1 < args.length
  · simp only [patterned, if_true]
    exact (IsSteady.ofExcept _).bind fun source => steady_readBy _ source text
  · simp only [patterned, if_false]
    exact .ofExcept _

theorem steady_unixTimestamp (ctx : Context) (args : List Value) :
    IsSteady (unixTimestamp ctx args) := by
  refine (IsSteady.ofExcept _).bind fun text? => ?_
  cases text? with
  | none => exact .pure _
  | some text => exact (steady_localTimeArg ctx args text).bind fun t => .ofExcept _

/-- **Every built-in function is steady**: all but four are without patterns,
and those that take one ask for it once. -/
theorem steady_apply (ctx : Context) (b : Builtin) (args : List Value) :
    IsSteady (b.apply ctx args) := by
  cases b with
  | toDateBy => exact steady_toDateBy args
  | dateFormat => exact steady_dateFormat ctx args
  | fromUnixtime => exact steady_fromUnixtime ctx args
  | unixTimestamp => exact steady_unixTimestamp ctx args
  | concat => exact .ofExcept (concat args)
  | coalesce => exact .ofExcept (coalesce args)
  | _ => exact .ofExcept _

end Functions

/-! ## §3. Expressions and conditions. -/

namespace Scope

variable (s : Scope)

theorem steady_call (ctx : Context) (function : String) (args : List Value) :
    (Builtin.call ctx function args).IsSteady := by
  unfold Builtin.call
  cases Builtin.check function args.length with
  | ok b => exact steady_apply ctx b args
  | error e => exact .fail _

/-- **Expressions are steady**, since calls are. -/
theorem steady_evaluate (e : Expr) : (s.evaluate e).IsSteady :=
  evaluate_of_isClosed Eval.IsSteady.isClosed (steady_call s.context) e

/-- **Conditions are steady.** -/
theorem steady_holds (c : Condition) : (s.holds c).IsSteady :=
  holds_of_isClosed Eval.IsSteady.isClosed (steady_call s.context) c

/-- The value of an expression, and it has only this one. -/
def value (e : Expr) : Except Halt Value := ((s.evaluate e).runWith .empty).1

/-- Whether a condition holds. -/
def truth (c : Condition) : Except Halt Bool := ((s.holds c).runWith .empty).1

end Scope

end Recordwise
