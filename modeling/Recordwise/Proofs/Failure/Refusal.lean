/-
  Recordwise.Proofs.Failure.Refusal
  ─────────────────────────────────
  **Refusals that are not about a missing argument.**

  A function refuses an argument with a value failure.  One refusal stands
  apart, that of an argument which is not there: no statement that resolves
  should ever meet it.  All others are told from it by how their report
  begins.  Main statements:

      IsClear.append        — the beginning decides
      isRefusal_of_isClear  — such a report is no missing argument's
-/
import Recordwise.Functions.Argument

namespace Recordwise

/-- How the report of a missing argument begins. -/
def missingText : String := "missing argument "

/-- Whether a text is told by its beginning from the report of a missing
argument: neither begins the other. -/
def IsClear (d : String) : Prop :=
  ¬ d.toList <+: missingText.toList ∧ ¬ missingText.toList <+: d.toList

instance (d : String) : Decidable (IsClear d) := inferInstanceAs (Decidable (_ ∧ _))

/-- **The beginning decides**: whatever follows a clear text, the whole is
clear. -/
theorem IsClear.append {d : String} (h : IsClear d) (rest : String) : IsClear (d ++ rest) := by
  have starts : d.toList <+: (d ++ rest).toList := by
    rw [String.toList_append]
    exact List.prefix_append d.toList rest.toList
  constructor
  · intro begins
    exact h.1 (starts.trans begins)
  · intro begins
    -- both begin the whole, so one of them begins the other
    cases List.prefix_or_prefix_of_prefix begins starts with
    | inl first => exact h.2 first
    | inr second => exact h.1 second

theorem IsClear.ne_missing {d : String} (h : IsClear d) (n : Nat) :
    d ≠ "missing argument " ++ Nat.repr n := by
  intro same
  apply h.2
  rw [same, String.toList_append]
  exact List.prefix_append _ _

/-- A function refused an argument that was there. -/
def Failure.IsRefusal (f : Failure) : Prop :=
  ∃ function d, f = .value function d ∧ ∀ n, d ≠ "missing argument " ++ Nat.repr n

/-- **A clear report is that of an argument which was there.** -/
theorem Failure.isRefusal_of_isClear {d : String} (h : IsClear d) (function : String) :
    (Failure.value function d).IsRefusal :=
  ⟨function, d, rfl, h.ne_missing⟩

/-- The report of a missing argument is none. -/
theorem Functions.not_isRefusal_missing (function : String) (i : Nat) :
    ¬ (missing function i).IsRefusal := by
  intro h
  obtain ⟨_, d, same, clear⟩ := h
  cases same
  exact clear (i + 1) rfl

end Recordwise
