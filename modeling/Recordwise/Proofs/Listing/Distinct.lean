/-
  Recordwise.Proofs.Listing.Distinct
  ──────────────────────────────────
  **The members of a list, in the order of their first arrival.**

  A list that grows at its end gains a member only when one arrives that was
  not there before, and that one comes last.  Main statements:

      eraseDups_append_singleton — what one more arrival adds
      pairwise_eraseDups         — the members come in the order of first arrival
      nodup_eraseDups            — no member is listed twice
      length_eraseDups           — there are as many as there are members
-/
import Mathlib.Data.Finset.Card
import Mathlib.Data.List.Induction

namespace Recordwise.Listing

variable {α : Type} [DecidableEq α]

/-- **What one more arrival adds.** -/
theorem eraseDups_append_singleton (l : List α) (a : α) :
    (l ++ [a]).eraseDups = if a ∈ l then l.eraseDups else l.eraseDups ++ [a] := by
  rw [List.eraseDups_append]
  by_cases listed : a ∈ l
  · rw [if_pos listed]
    simp [List.removeAll, listed]
  · rw [if_neg listed]
    simp [List.removeAll, listed, List.eraseDups_cons]

/-- **The members come in the order of their first arrival.** -/
theorem pairwise_eraseDups (l : List α) :
    l.eraseDups.Pairwise fun a b => l.idxOf a < l.idxOf b := by
  induction l using List.reverseRecOn with
  | nil => exact List.Pairwise.nil
  | append_singleton l a ih =>
    have stays {b : α} (listed : b ∈ l.eraseDups) : (l ++ [a]).idxOf b = l.idxOf b :=
      List.idxOf_append_of_mem (List.mem_eraseDups.1 listed)
    have before : l.eraseDups.Pairwise fun b c => (l ++ [a]).idxOf b < (l ++ [a]).idxOf c := by
      refine ih.imp_of_mem fun {b c} hb hc earlier => ?_
      rw [stays hb, stays hc]
      exact earlier
    rw [eraseDups_append_singleton]
    split
    · exact before
    · rename_i fresh
      -- the new member arrives behind the whole list
      refine List.pairwise_append.2 ⟨before, List.pairwise_singleton _ _, ?_⟩
      intro b hb c hc
      rw [List.mem_singleton.1 hc, stays hb, List.idxOf_append_of_notMem fresh]
      exact Nat.lt_add_right _ (List.idxOf_lt_length_iff.2 (List.mem_eraseDups.1 hb))

/-- No member is listed twice. -/
theorem nodup_eraseDups (l : List α) : l.eraseDups.Nodup := by
  refine (pairwise_eraseDups l).imp fun {a b} earlier same => ?_
  rw [same] at earlier
  exact Nat.lt_irrefl _ earlier

/-- **There are as many as there are members.** -/
theorem length_eraseDups (l : List α) : l.eraseDups.length = l.toFinset.card := by
  have same : l.eraseDups.toFinset = l.toFinset := by
    ext a
    rw [List.mem_toFinset, List.mem_toFinset, List.mem_eraseDups]
  rw [← same, List.toFinset_card_of_nodup (nodup_eraseDups l)]

end Recordwise.Listing
