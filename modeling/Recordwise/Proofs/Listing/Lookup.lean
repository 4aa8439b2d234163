/-
  Recordwise.Proofs.Listing.Lookup
  ────────────────────────────────
  **Keys with partners, and which of them a lookup finds.**

  A lookup finds the first pair that has its key.  Where no key occurs twice
  that is the only one; in a list that is read backwards it is the one behind
  which the key does not come again.  Main statements:

      lookup_eq_none_iff_notMem  — nothing is found when no pair has the key
      lookup_eq_some_iff_mem     — among different keys every pair is found
      lookup_reverse_eq_some_iff — backwards the last pair of a key is found
-/
import Mathlib.Data.List.Nodup

namespace Recordwise.Listing

variable {α β : Type} [BEq α] [LawfulBEq α]

theorem forall_bne_iff_notMem {l : List (α × β)} {key : α} :
    (∀ p ∈ l, (key != p.1) = true) ↔ key ∉ l.map (·.1) := by
  rw [List.mem_map]
  constructor
  · rintro unlike ⟨p, listed, rfl⟩
    exact bne_iff_ne.1 (unlike p listed) rfl
  · intro absent p listed
    rw [bne_iff_ne]
    rintro rfl
    exact absent ⟨p, listed, rfl⟩

/-- Nothing is found when no pair has the key. -/
theorem lookup_eq_none_iff_notMem {l : List (α × β)} {key : α} :
    l.lookup key = none ↔ key ∉ l.map (·.1) := by
  rw [List.lookup_eq_none_iff]
  exact forall_bne_iff_notMem

/-- **Among different keys every pair is found.** -/
theorem lookup_eq_some_iff_mem {l : List (α × β)} (distinct : (l.map (·.1)).Nodup) {key : α}
    {v : β} : l.lookup key = some v ↔ (key, v) ∈ l := by
  rw [List.lookup_eq_some_iff]
  constructor
  · rintro ⟨front, behind, rfl, -⟩
    exact List.mem_append_right front List.mem_cons_self
  · intro listed
    obtain ⟨front, behind, rfl⟩ := List.append_of_mem listed
    refine ⟨front, behind, rfl, forall_bne_iff_notMem.2 ?_⟩
    -- in front, the key would occur twice
    intro before
    rw [List.map_append, List.map_cons] at distinct
    exact (List.nodup_append.1 distinct).2.2 key before key List.mem_cons_self rfl

/-- **Backwards the last pair of a key is found.** -/
theorem lookup_reverse_eq_some_iff {l : List (α × β)} {key : α} {v : β} :
    l.reverse.lookup key = some v ↔
      ∃ before after, l = before ++ (key, v) :: after ∧ key ∉ after.map (·.1) := by
  rw [List.lookup_eq_some_iff]
  constructor
  · rintro ⟨after, before, turned, unlike⟩
    refine ⟨before.reverse, after.reverse, ?_, ?_⟩
    · rw [List.reverse_eq_iff.1 turned]
      simp
    · rw [List.map_reverse, List.mem_reverse]
      exact forall_bne_iff_notMem.1 unlike
  · rintro ⟨before, after, rfl, absent⟩
    refine ⟨after.reverse, before.reverse, by simp, ?_⟩
    rw [forall_bne_iff_notMem, List.map_reverse, List.mem_reverse]
    exact absent

end Recordwise.Listing
