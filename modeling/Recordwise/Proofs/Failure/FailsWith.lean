/-
  Recordwise.Proofs.Failure.FailsWith
  ───────────────────────────────────
  **How a result can fail.**

  `FailsWith P` says of a result that a failure, if it is one, has the
  property `P`.  Steps that fail with `P` make a computation that fails with
  `P`: one behind the other, over a list, and folded over a list.
  `Eval.FailsWith P` says the same of a computation over the cache, whatever
  the cache; leaving the calendar is no failure.  Main statements:

      bind_eq_ok_iff      — two steps succeed when both do, the second with
                            what the first gives
      FailsWith.bind      — steps behind one another
      FailsWith.mapM      — a step for every member of a list
      FailsWith.foldlM    — a step with every member of a list
      Eval.FailsWith.bind — computations behind one another
-/
import Recordwise.Proofs.Evaluation.Running

namespace Recordwise

variable {α β : Type}

/-! ## §1. Results. -/

theorem bind_eq_ok_iff {ε : Type} {x : Except ε α} {f : α → Except ε β} {b : β} :
    x >>= f = .ok b ↔ ∃ a, x = .ok a ∧ f a = .ok b := by
  cases x with
  | error e =>
      constructor
      · intro h
        cases h
      · rintro ⟨a, h, -⟩
        cases h
  | ok a =>
      constructor
      · intro h
        exact ⟨a, rfl, h⟩
      · rintro ⟨c, same, h⟩
        cases same
        exact h

/-- Every failure of a result has a property. -/
def FailsWith (P : Failure → Prop) (x : Except Failure α) : Prop := ∀ f, x = .error f → P f

namespace FailsWith

variable {P : Failure → Prop}

theorem ok (a : α) : FailsWith P (.ok a) := by
  intro f h
  cases h

theorem error {f : Failure} (h : P f) : FailsWith P (.error f : Except Failure α) := by
  intro g same
  cases same
  exact h

/-- **Steps behind one another**: the second counts only for what the first
gives. -/
theorem bind {x : Except Failure α} {f : α → Except Failure β} (hx : FailsWith P x)
    (hf : ∀ a, x = .ok a → FailsWith P (f a)) : FailsWith P (x >>= f) := by
  cases x with
  | error e => exact error (hx e rfl)
  | ok a => exact hf a rfl

theorem map {x : Except Failure α} (hx : FailsWith P x) (f : α → β) : FailsWith P (x.map f) := by
  cases x with
  | error e => exact error (hx e rfl)
  | ok a => exact ok (f a)

/-- A step for every member of a list. -/
theorem mapM {as : List α} {f : α → Except Failure β} (h : ∀ a ∈ as, FailsWith P (f a)) :
    FailsWith P (as.mapM f) := by
  induction as with
  | nil => exact ok []
  | cons a as ih =>
      rw [List.mapM_cons]
      refine bind (h a List.mem_cons_self) fun b _ => ?_
      refine bind (ih fun c hc => h c (List.mem_cons_of_mem a hc)) fun bs _ => ?_
      exact ok (b :: bs)

/-- A step with every member of a list. -/
theorem foldlM {as : List α} {f : β → α → Except Failure β}
    (h : ∀ b, ∀ a ∈ as, FailsWith P (f b a)) (b : β) : FailsWith P (as.foldlM f b) := by
  induction as generalizing b with
  | nil => exact ok b
  | cons a as ih =>
      rw [List.foldlM_cons]
      refine bind (h b a List.mem_cons_self) fun c _ => ?_
      exact ih (fun d e he => h d e (List.mem_cons_of_mem a he)) c

end FailsWith

/-! ## §2. Computations over the cache. -/

/-- Every failure of a computation has a property, whatever patterns are
kept. -/
def Eval.FailsWith (P : Failure → Prop) (x : Eval α) : Prop :=
  ∀ cache f, (x.runWith cache).1 = .error (.failed f) → P f

namespace Eval.FailsWith

variable {P : Failure → Prop}

theorem pure (a : α) : FailsWith P (Pure.pure a : Eval α) := by
  intro cache f h
  cases h

theorem fail {f : Failure} (h : P f) : FailsWith P (Eval.fail f : Eval α) := by
  intro cache g same
  cases same
  exact h

theorem offCalendar : FailsWith P (Eval.offCalendar : Eval α) := by
  intro cache f h
  cases h

theorem ofExcept {x : Except Failure α} (hx : Recordwise.FailsWith P x) :
    FailsWith P (Eval.ofExcept x) := by
  cases x with
  | ok a => exact pure a
  | error f => exact fail (hx f rfl)

/-- **Computations behind one another**: the second counts only for what the
first can give. -/
theorem bind {x : Eval α} {f : α → Eval β} (hx : FailsWith P x)
    (hf : ∀ a cache, (x.runWith cache).1 = .ok a → FailsWith P (f a)) :
    FailsWith P (x >>= f) := by
  intro cache g failed
  rcases cases_of_runWith_bind_eq_error failed with first | ⟨a, next, ran, second⟩
  · exact hx cache g first
  · exact hf a cache (congrArg Prod.fst ran) next g second

end Eval.FailsWith

end Recordwise
