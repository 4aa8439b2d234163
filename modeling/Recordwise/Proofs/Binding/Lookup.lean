/-
  Recordwise.Proofs.Binding.Lookup
  ────────────────────────────────
  **The value of a name, whatever the order of arrival.**

  A consistent binding gives for a name the value that stands beside it, so
  two bindings with the same entries, in any order, answer alike.  Main
  statements:

      lookup_index_eq_some_iff_entry — the index gives the places of the entries
      get?_eq_some_iff               — a name has the value that stands beside it
      contains_iff                   — and is bound only when one does
      get?_ofList_perm               — pairs with distinct names are found in any
                                       order
      isEmpty_ofList                 — and make an empty binding only when there
                                       are none
-/
import Recordwise.Proofs.Binding.Consistency

namespace Recordwise.Binding

/-- The index of a consistent binding gives the place of a name. -/
theorem lookup_index_eq_some_iff {b : Binding} (h : b.IsConsistent) {name : String} {i : Nat} :
    b.index.lookup name = some i ↔ b.names[i]? = some name := by
  have distinct : (b.names.zipIdx.map (·.1)).Nodup := by
    rw [List.zipIdx_map_fst]
    exact h.nodup
  rw [h.index_eq, Listing.lookup_eq_some_iff_mem distinct, List.mem_zipIdx_iff_getElem?]

/-- **The index gives the place of the entry of a name**, and places nothing
that has no entry. -/
theorem lookup_index_eq_some_iff_entry {b : Binding} (h : b.IsConsistent) {name : String}
    {i : Nat} : b.index.lookup name = some i ↔ ∃ v, b.toList[i]? = some (name, v) := by
  have place : b.names[i]? = b.toList[i]?.map (·.1) := List.getElem?_map
  rw [lookup_index_eq_some_iff h, place, Option.map_eq_some_iff]
  constructor
  · rintro ⟨⟨n, v⟩, here, rfl⟩
    exact ⟨v, here⟩
  · rintro ⟨v, here⟩
    exact ⟨(name, v), here, rfl⟩

/-- **A name has the value that stands beside it.** -/
theorem get?_eq_some_iff {b : Binding} (h : b.IsConsistent) {name : String} {v : Value} :
    b.get? name = some v ↔ (name, v) ∈ b.toList := by
  unfold get?
  constructor
  · intro found
    cases looked : b.index.lookup name with
    | none =>
        rw [looked] at found
        cases found
    | some i =>
        rw [looked] at found
        obtain ⟨w, here⟩ := (lookup_index_eq_some_iff_entry h).1 looked
        change b.toList[i]?.map (·.2) = some v at found
        rw [here] at found
        obtain rfl : w = v := Option.some.inj found
        exact List.mem_of_getElem? here
  · intro listed
    obtain ⟨i, here⟩ := List.mem_iff_getElem?.1 listed
    rw [(lookup_index_eq_some_iff_entry h).2 ⟨v, here⟩]
    show b.toList[i]?.map (·.2) = some v
    rw [here]
    rfl

/-- Looking a name up in the index is looking it up in the entries. -/
theorem get?_eq_lookup {b : Binding} (h : b.IsConsistent) (name : String) :
    b.get? name = b.toList.lookup name := by
  apply Option.ext
  intro v
  rw [get?_eq_some_iff h]
  exact (Listing.lookup_eq_some_iff_mem h.nodup).symm

/-- The names in the index are those of the entries. -/
theorem contains_iff {b : Binding} (h : b.IsConsistent) (name : String) :
    b.contains name = true ↔ ∃ v, (name, v) ∈ b.toList := by
  unfold contains
  rw [Option.isSome_iff_exists]
  constructor
  · rintro ⟨i, looked⟩
    obtain ⟨v, here⟩ := (lookup_index_eq_some_iff_entry h).1 looked
    exact ⟨v, List.mem_of_getElem? here⟩
  · rintro ⟨v, listed⟩
    obtain ⟨i, here⟩ := List.mem_iff_getElem?.1 listed
    exact ⟨i, (lookup_index_eq_some_iff_entry h).2 ⟨v, here⟩⟩

/-- Bindings with the same entries answer alike. -/
theorem get?_congr {b c : Binding} (hb : b.IsConsistent) (hc : c.IsConsistent)
    (same : ∀ e, e ∈ b.toList ↔ e ∈ c.toList) (name : String) : b.get? name = c.get? name := by
  apply Option.ext
  intro v
  rw [get?_eq_some_iff hb, get?_eq_some_iff hc]
  exact same (name, v)

/-- **Pairs with distinct names are found in any order.** -/
theorem get?_ofList_perm {pairs others : List (String × Value)} (perm : pairs.Perm others)
    (distinct : (pairs.map (·.1)).Nodup) (name : String) :
    (ofList pairs).get? name = (ofList others).get? name := by
  have distinct' : (others.map (·.1)).Nodup := (perm.map _).nodup_iff.1 distinct
  apply get?_congr (isConsistent_ofList pairs) (isConsistent_ofList others)
  intro e
  rw [toList_ofList distinct, toList_ofList distinct']
  exact perm.mem_iff

theorem isEmpty_ofList {pairs : List (String × Value)} (distinct : (pairs.map (·.1)).Nodup) :
    (ofList pairs).isEmpty = pairs.isEmpty :=
  congrArg List.isEmpty (toList_ofList distinct)

end Recordwise.Binding
