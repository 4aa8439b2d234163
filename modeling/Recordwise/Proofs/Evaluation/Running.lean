/-
  Recordwise.Proofs.Evaluation.Running
  ────────────────────────────────────
  **Computations run step by step.**

  What a computation gives is read off its steps: a step that neither asks for
  a pattern nor keeps one leaves the cache as it is, and a bind goes on from
  the result and the cache of its first step.  Main statements:

      runWith_ofExcept — a lifted result leaves the cache alone
      runWith_pattern  — a pattern is asked of the cache, which keeps it
      fst_runWith_bind — what is given by steps that end without the cache
-/
import Recordwise.Evaluation.Eval

namespace Recordwise.Eval

open DatePattern (Cache)

variable {α β : Type}

/-- A lifted result leaves the cache alone. -/
theorem runWith_ofExcept (x : Except Failure α) (cache : Cache) :
    (ofExcept x).runWith cache = (x.mapError .failed, cache) := by
  cases x <;> rfl

/-- Computations that only give a result are told apart by it. -/
theorem pure_inj {a b : α} : (pure a : Eval α) = pure b ↔ a = b := by
  constructor
  · intro same
    have given := congrArg (fun e : Eval α => (e.runWith .empty).1) same
    exact Except.ok.inj given
  · rintro rfl
    rfl

/-- A lifted result is given when it is one. -/
theorem fst_runWith_ofExcept_eq_ok_iff (x : Except Failure α) (cache : Cache) (a : α) :
    ((ofExcept x).runWith cache).1 = .ok a ↔ x = .ok a := by
  rw [runWith_ofExcept]
  cases x with
  | ok b => exact ⟨fun h => congrArg _ (Except.ok.inj h), fun h => congrArg _ (Except.ok.inj h)⟩
  | error f => exact ⟨fun h => (by cases h), fun h => (by cases h)⟩

theorem ofExcept_eq_pure_iff {x : Except Failure α} {a : α} : ofExcept x = pure a ↔ x = .ok a := by
  constructor
  · intro same
    have given := congrArg (fun e : Eval α => (e.runWith .empty).1) same
    exact (fst_runWith_ofExcept_eq_ok_iff x .empty a).1 given
  · rintro rfl
    rfl

/-- A bind goes on from the result and the cache of its first step. -/
theorem runWith_bind (x : Eval α) (f : α → Eval β) (cache : Cache) :
    (x >>= f).runWith cache =
      match x.runWith cache with
      | (.ok a, next) => (f a).runWith next
      | (.error e, next) => (.error e, next) := by
  show (ExceptT.bindCont f (x.runWith cache).1 : StateM Cache _) (x.runWith cache).2 = _
  obtain ⟨result, next⟩ := x.runWith cache
  cases result <;> rfl

/-- A pattern is asked of the cache, which keeps it; a refusal is one of the
function. -/
theorem runWith_pattern (function source : String) (cache : Cache) :
    (pattern function source).runWith cache =
      ((cache.get source).1.mapError fun e => .failed (.value function (e.message source)),
        (cache.get source).2) := by
  unfold pattern
  rw [runWith_bind, show (get : Eval Cache).runWith cache = (.ok cache, cache) from rfl]
  dsimp only
  rcases cache.get source with ⟨result, next⟩
  cases result with
  | ok p => rfl
  | error e => rfl

/-- A bind that gives a result has it from its second step. -/
theorem exists_of_runWith_bind_eq_ok {x : Eval α} {f : α → Eval β} {cache : Cache} {b : β}
    (h : ((x >>= f).runWith cache).1 = .ok b) :
    ∃ a next, x.runWith cache = (.ok a, next) ∧ ((f a).runWith next).1 = .ok b := by
  rw [runWith_bind] at h
  cases ran : x.runWith cache with
  | mk result next =>
      rw [ran] at h
      cases result with
      | ok a => exact ⟨a, next, rfl, h⟩
      | error e => cases h

/-- A bind stops with its first step, or goes on and stops with its second. -/
theorem cases_of_runWith_bind_eq_error {x : Eval α} {f : α → Eval β} {cache : Cache} {h : Halt}
    (stopped : ((x >>= f).runWith cache).1 = .error h) :
    (x.runWith cache).1 = .error h ∨
      ∃ a next, x.runWith cache = (.ok a, next) ∧ ((f a).runWith next).1 = .error h := by
  rw [runWith_bind] at stopped
  cases ran : x.runWith cache with
  | mk result next =>
      rw [ran] at stopped
      cases result with
      | ok a => exact .inr ⟨a, next, rfl, stopped⟩
      | error e =>
          cases stopped
          exact .inl rfl

/-- What is given by a bind whose second step does not depend on the cache. -/
theorem fst_runWith_bind {f : α → Eval β} {g : α → Except Halt β}
    (h : ∀ a cache, ((f a).runWith cache).1 = g a) (x : Eval α) (cache : Cache) :
    ((x >>= f).runWith cache).1 = (x.runWith cache).1.bind g := by
  rw [runWith_bind]
  obtain ⟨result, next⟩ := x.runWith cache
  cases result with
  | ok a => exact h a next
  | error e => rfl

/-- A lifted result is handed on, or its failure is given. -/
theorem fst_runWith_ofExcept_bind_eq_ok_iff (x : Except Failure α) (f : α → Eval β) (cache : Cache)
    (b : β) : ((ofExcept x >>= f).runWith cache).1 = .ok b ↔
      ∃ a, x = .ok a ∧ ((f a).runWith cache).1 = .ok b := by
  rw [runWith_bind, runWith_ofExcept]
  constructor
  · intro h
    cases x with
    | ok a => exact ⟨a, rfl, h⟩
    | error e => cases h
  · rintro ⟨a, rfl, h⟩
    exact h

/-- Over a sound cache, the pattern of a text that compiles is handed on. -/
theorem exists_runWith_pattern_bind {cache : Cache} (sound : cache.IsSound) {source : String}
    {p : DatePattern} (compiled : DatePattern.compile source = .ok p) (function : String)
    (f : DatePattern → Eval β) :
    ∃ next, (pattern function source >>= f).runWith cache = (f p).runWith next := by
  have asked : ((pattern function source).runWith cache).1 = .ok p := by
    rw [pattern_runWith_fst sound, compiled]
  cases run : (pattern function source).runWith cache with
  | mk result next =>
      rw [run] at asked
      have same : result = .ok p := asked
      rw [runWith_bind, run, same]
      exact ⟨next, rfl⟩

end Recordwise.Eval
