/-
  Recordwise.Proofs.Failure.EveryMember
  ─────────────────────────────────────
  **Results for the members of a list.**

  Doing a step for every member of a list succeeds when it succeeds for each,
  and then gives what it gives for each.  So the order of the members decides
  the order of what is given, and nothing else.  Main statements:

      exists_map_ok       — results without a failure are all there
      mapM_eq_ok_iff      — a step for every member, read member by member
      mapM_cases_of_perm  — the members in another order
-/
import Mathlib.Data.List.Perm.Basic
import Recordwise.Proofs.Failure.FailsWith

namespace Recordwise

variable {ε α β : Type}

/-- **Results without a failure are all there.** -/
theorem exists_map_ok {rs : List (Except ε α)} (there : ∀ e, .error e ∉ rs) :
    ∃ as : List α, rs = as.map .ok := by
  induction rs with
  | nil => exact ⟨[], rfl⟩
  | cons r rs ih =>
      obtain ⟨as, rfl⟩ := ih fun e listed => there e (List.mem_cons_of_mem r listed)
      cases r with
      | error e => exact absurd List.mem_cons_self (there e)
      | ok a => exact ⟨a :: as, rfl⟩

/-- **A step for every member succeeds when it does for each**, with what it
gives for each. -/
theorem mapM_eq_ok_iff {f : α → Except ε β} {as : List α} {bs : List β} :
    as.mapM f = .ok bs ↔ as.map f = bs.map .ok := by
  induction as generalizing bs with
  | nil =>
      show Except.ok [] = .ok bs ↔ _
      rw [Except.ok.injEq, List.map_nil, eq_comm, eq_comm (a := []), List.map_eq_nil_iff]
  | cons a as ih =>
      rw [List.mapM_cons, bind_eq_ok_iff, List.map_cons]
      constructor
      · rintro ⟨b, first, rest⟩
        obtain ⟨cs, others, same⟩ := bind_eq_ok_iff.1 rest
        cases same
        rw [List.map_cons, first, ih.1 others]
      · intro each
        cases bs with
        | nil => cases each
        | cons b bs =>
            rw [List.map_cons, List.cons.injEq] at each
            exact ⟨b, each.1, bind_eq_ok_iff.2 ⟨bs, ih.2 each.2, rfl⟩⟩

/-- Doing a step that may give nothing for every member gives something when it
does for each. -/
theorem mapM_eq_some_iff {f : α → Option β} {as : List α} {bs : List β} :
    as.mapM f = some bs ↔ as.map f = bs.map some := by
  induction as generalizing bs with
  | nil =>
      show some [] = some bs ↔ _
      rw [Option.some.injEq, List.map_nil, eq_comm, eq_comm (a := []), List.map_eq_nil_iff]
  | cons a as ih =>
      rw [List.mapM_cons, List.map_cons]
      cases f a with
      | none => cases bs <;> simp
      | some b =>
          cases bs with
          | nil => cases as.mapM f <;> simp
          | cons c cs =>
              rw [List.map_cons, List.cons.injEq, ← ih]
              cases as.mapM f <;> simp

/-- **The members in another order**: a step succeeds for all on both sides,
with the same in another order, or fails on both. -/
theorem mapM_cases_of_perm {as bs : List α} (perm : as.Perm bs) (f : α → Except ε β) :
    (∃ xs ys, as.mapM f = .ok xs ∧ bs.mapM f = .ok ys ∧ xs.Perm ys) ∨
      ((∃ e, as.mapM f = .error e) ∧ ∃ e, bs.mapM f = .error e) := by
  have mapped : (as.map f).Perm (bs.map f) := perm.map f
  by_cases failing : ∃ e, .error e ∈ as.map f
  · right
    obtain ⟨e, listed⟩ := failing
    -- a list with a failure in it is not one of successes
    have fails : ∀ cs : List α, .error e ∈ cs.map f → ∃ e, cs.mapM f = .error e := by
      intro cs among
      cases all : cs.mapM f with
      | error d => exact ⟨d, rfl⟩
      | ok ds =>
          rw [mapM_eq_ok_iff.1 all] at among
          obtain ⟨d, -, other⟩ := List.mem_map.1 among
          cases other
    exact ⟨fails as listed, fails bs (mapped.mem_iff.1 listed)⟩
  · left
    -- neither side has a failure, so both are successes, one permuting the other
    have there : ∀ e, .error e ∉ as.map f := fun e listed => failing ⟨e, listed⟩
    obtain ⟨xs, here⟩ := exists_map_ok there
    obtain ⟨ys, other⟩ := exists_map_ok fun e listed => there e (mapped.mem_iff.2 listed)
    rw [here, other] at mapped
    refine ⟨xs, ys, mapM_eq_ok_iff.2 here, mapM_eq_ok_iff.2 other, ?_⟩
    exact (List.map_perm_map_iff fun _ _ same => Except.ok.inj same).1 mapped

end Recordwise
