/-
  Recordwise.Proofs.Evaluation.Refusing
  ─────────────────────────────────────
  **Checked expressions fail only by refusing an argument.**

  Checking an expression finds an overload for each of its calls; evaluating
  it makes these calls with as many values as there are arguments, so the
  overload is found again and has enough of them.  What is left to fail is
  the refusal of an argument.  Main statements:

      evaluate_failsWith — checked expressions, for any record
      holds_failsWith    — conditions with checked expressions
-/
import Recordwise.Evaluation.Expression
import Recordwise.Proofs.Functions.Refusing
import Recordwise.Proofs.Query.Resolution

namespace Recordwise

open Failure Query

/-! ## §1. Calls. -/

theorem Arity.least_le_of_accepts {a : Arity} {count : Nat} (h : a.accepts count = true) :
    a.least ≤ count := by
  unfold accepts at h
  rw [Bool.and_eq_true] at h
  exact of_decide_eq_true h.1

/-- A call that is accepted for a number of arguments fails only by refusing
one of them. -/
theorem Builtin.call_failsWith {function : String} {count : Nat} {b : Builtin}
    (found : check function count = .ok b) (ctx : Context) {args : List Value}
    (length : args.length = count) : (call ctx function args).FailsWith IsRefusal := by
  have accepts := (lookup?_some (check_eq_ok.1 found)).2
  unfold call
  rw [length, found]
  apply Functions.apply_failsWith
  rw [length]
  exact Arity.least_le_of_accepts accepts

namespace Scope

variable {s : Scope} {source : List String}

/-! ## §2. Expressions. -/

/-- There are as many values as expressions. -/
theorem length_of_evaluateAll {es : List Expr} {cache : DatePattern.Cache} {vs : List Value}
    (h : ((s.evaluateAll es).runWith cache).1 = .ok vs) : vs.length = es.length := by
  induction es generalizing cache vs with
  | nil =>
      rw [evaluateAll] at h
      cases h
      rfl
  | cons e es ih =>
      rw [evaluateAll] at h
      obtain ⟨v, next, -, h⟩ := Eval.exists_of_runWith_bind_eq_ok h
      obtain ⟨rest, last, run, h⟩ := Eval.exists_of_runWith_bind_eq_ok h
      cases h
      rw [List.length_cons, List.length_cons, ih (congrArg Prod.fst run)]

theorem evaluateAll_failsWith {es : List Expr}
    (h : ∀ e ∈ es, (s.evaluate e).FailsWith IsRefusal) :
    (s.evaluateAll es).FailsWith IsRefusal := by
  induction es with
  | nil =>
      rw [evaluateAll]
      exact .pure _
  | cons e es ih =>
      rw [evaluateAll]
      refine (h e List.mem_cons_self).bind fun v _ _ => ?_
      refine (ih fun d listed => h d (List.mem_cons_of_mem e listed)).bind fun vs _ _ => ?_
      exact .pure _

/-- **Checked expressions fail only by refusing an argument**, for any
record. -/
theorem evaluate_failsWith {e : Expr} (checked : check source e = .ok ()) :
    (s.evaluate e).FailsWith IsRefusal := by
  induction e using Expr.induction_args with
  | literal v =>
      rw [evaluate]
      exact .pure _
  | column name =>
      rw [evaluate]
      exact .pure _
  | parameter name =>
      rw [evaluate]
      exact .pure _
  | call function args ih =>
      obtain ⟨⟨b, found⟩, each⟩ := check_call_eq_ok_iff.1 checked
      rw [evaluate]
      refine (evaluateAll_failsWith fun a listed => ih a listed (each a listed)).bind ?_
      intro vs cache run
      -- as many values as arguments, so the overload of the check is the one called
      exact Builtin.call_failsWith found s.context (length_of_evaluateAll run)

/-! ## §3. Conditions. -/

/-- **So do conditions with checked expressions.** -/
theorem holds_failsWith {c : Condition} (checked : ∀ e ∈ c.expressions, check source e = .ok ()) :
    (s.holds c).FailsWith IsRefusal := by
  induction c with
  | compare l op r =>
      have left := checked l List.mem_cons_self
      have right := checked r (List.mem_cons_of_mem l List.mem_cons_self)
      exact (evaluate_failsWith left).bind fun v _ _ =>
        (evaluate_failsWith right).bind fun w _ _ => .pure _
  | isNull e negated =>
      exact (evaluate_failsWith (checked e List.mem_cons_self)).bind fun v _ _ => .pure _
  | and l r hl hr =>
      refine (hl fun e listed => checked e (List.mem_append_left _ listed)).bind fun b _ _ => ?_
      cases b with
      | true => exact hr fun e listed => checked e (List.mem_append_right _ listed)
      | false => exact .pure _
  | or l r hl hr =>
      refine (hl fun e listed => checked e (List.mem_append_left _ listed)).bind fun b _ _ => ?_
      cases b with
      | true => exact .pure _
      | false => exact hr fun e listed => checked e (List.mem_append_right _ listed)
  | not c hc => exact (hc checked).bind fun b _ _ => .pure _

end Scope

end Recordwise
