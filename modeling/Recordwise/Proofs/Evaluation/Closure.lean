/-
  Recordwise.Proofs.Evaluation.Closure
  ────────────────────────────────────
  **What holds of every call holds of every expression.**

  Expressions and conditions are calls put behind one another.  So a property
  of computations that results have, and that computations behind one another
  keep, holds of whatever is evaluated as soon as it holds of the calls.
  Main statements:

      evaluate_of_isClosed — expressions
      holds_of_isClosed    — conditions
-/
import Recordwise.Evaluation.Expression
import Recordwise.Proofs.Query.Layout

namespace Recordwise

open Query

/-- A property of computations that results have, and that computations behind
one another keep. -/
structure Eval.IsClosed (P : (α : Type) → Eval α → Prop) : Prop where
  /-- A result has it. -/
  pure : ∀ {α : Type} (a : α), P α (Pure.pure a)
  /-- Computations behind one another have it when each of them does. -/
  bind : ∀ {α β : Type} {x : Eval α} {f : α → Eval β}, P α x → (∀ a, P β (f a)) → P β (x >>= f)

namespace Scope

variable {P : (α : Type) → Eval α → Prop} {s : Scope}

theorem evaluateAll_of_isClosed (closed : Eval.IsClosed P) {es : List Expr}
    (h : ∀ e ∈ es, P _ (s.evaluate e)) : P _ (s.evaluateAll es) := by
  induction es with
  | nil =>
      rw [evaluateAll]
      exact closed.pure _
  | cons e es ih =>
      rw [evaluateAll]
      refine closed.bind (h e List.mem_cons_self) fun v => ?_
      refine closed.bind (ih fun d listed => h d (List.mem_cons_of_mem e listed)) fun vs => ?_
      exact closed.pure _

/-- **What holds of every call holds of every expression.** -/
theorem evaluate_of_isClosed (closed : Eval.IsClosed P)
    (calls : ∀ function args, P _ (Builtin.call s.context function args)) (e : Expr) :
    P _ (s.evaluate e) := by
  induction e using Expr.induction_args with
  | literal v =>
      rw [evaluate]
      exact closed.pure _
  | column name =>
      rw [evaluate]
      exact closed.pure _
  | parameter name =>
      rw [evaluate]
      exact closed.pure _
  | call function args ih =>
      rw [evaluate]
      exact closed.bind (evaluateAll_of_isClosed closed ih) fun vs => calls function vs

/-- **And of every condition**: what decides whether a second part is evaluated
is the result of the first. -/
theorem holds_of_isClosed (closed : Eval.IsClosed P)
    (calls : ∀ function args, P _ (Builtin.call s.context function args)) (c : Condition) :
    P _ (s.holds c) := by
  have value (e : Expr) : P _ (s.evaluate e) := evaluate_of_isClosed closed calls e
  induction c with
  | compare l op r =>
      exact closed.bind (value l) fun v => closed.bind (value r) fun w => closed.pure _
  | isNull e negated => exact closed.bind (value e) fun v => closed.pure _
  | and l r hl hr =>
      refine closed.bind hl fun b => ?_
      cases b with
      | true => exact hr
      | false => exact closed.pure _
  | or l r hl hr =>
      refine closed.bind hl fun b => ?_
      cases b with
      | true => exact closed.pure _
      | false => exact hr
  | not c hc => exact closed.bind hc fun b => closed.pure _

end Scope

end Recordwise
