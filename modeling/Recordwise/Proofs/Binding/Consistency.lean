/-
  Recordwise.Proofs.Binding.Consistency
  ─────────────────────────────────────
  **The index of a binding agrees with its entries.**

  A binding is consistent when no name occurs twice and its index lists the
  names with their positions, in order.  The empty binding is consistent and
  `insert` keeps it so, hence every binding that is built by insertions is.
  Main statements:

      isConsistent_insert — one insertion preserves consistency
      isConsistent_ofList — so do any number of them
      toList_ofList       — pairs with distinct names are held as they are
-/
import Recordwise.Binding
import Recordwise.Proofs.Listing.Lookup

namespace Recordwise.Binding

/-! ## §1. The invariant. -/

/-- The index lists the names with their positions, and no name occurs
twice. -/
structure IsConsistent (b : Binding) : Prop where
  /-- The index is the list of the names with their positions. -/
  index_eq : b.index = b.names.zipIdx
  /-- No name occurs twice. -/
  nodup : b.names.Nodup

theorem lookup_index_eq_none {b : Binding} (h : b.IsConsistent) (name : String) :
    b.index.lookup name = none ↔ name ∉ b.names := by
  rw [h.index_eq, Listing.lookup_eq_none_iff_notMem, List.zipIdx_map_fst]

/-! ## §2. Every run of insertions preserves it. -/

theorem isConsistent_empty : empty.IsConsistent := ⟨rfl, List.nodup_nil⟩

/-- **One insertion preserves consistency.** -/
theorem isConsistent_insert {b : Binding} (h : b.IsConsistent) (name : String) (v : Value) :
    (b.insert name v).IsConsistent := by
  cases hl : b.index.lookup name with
  | some i =>
      -- a bound name changes neither the names nor the index
      refine ⟨?_, ?_⟩
      · rw [index_insert_of_bound hl, names_insert_of_bound hl]
        exact h.index_eq
      · rw [names_insert_of_bound hl]
        exact h.nodup
  | none =>
      have fresh : name ∉ b.names := (lookup_index_eq_none h name).1 hl
      refine ⟨?_, ?_⟩
      · rw [index_insert_of_fresh hl, names_insert_of_fresh hl, h.index_eq, List.zipIdx_append]
        simp [names]
      · rw [names_insert_of_fresh hl]
        refine List.nodup_append.2 ⟨h.nodup, by simp, ?_⟩
        intro n hn m hm
        rw [List.mem_singleton.1 hm]
        exact fun e => fresh (e ▸ hn)

theorem isConsistent_foldl {b : Binding} (h : b.IsConsistent) (pairs : List (String × Value)) :
    (pairs.foldl (fun b p => b.insert p.1 p.2) b).IsConsistent := by
  induction pairs generalizing b with
  | nil => exact h
  | cons p ps ih => exact ih (isConsistent_insert h p.1 p.2)

/-- **Every run of insertions from the empty binding is consistent.** -/
theorem isConsistent_ofList (pairs : List (String × Value)) : (ofList pairs).IsConsistent :=
  isConsistent_foldl isConsistent_empty pairs

/-! ## §3. Fresh names arrive in order. -/

theorem toList_insert_of_fresh {b : Binding} (h : b.IsConsistent) {name : String}
    (fresh : name ∉ b.names) (v : Value) :
    (b.insert name v).toList = b.toList ++ [(name, v)] :=
  entries_insert_of_fresh ((lookup_index_eq_none h name).2 fresh)

theorem toList_foldl_insert {b : Binding} (h : b.IsConsistent) (pairs : List (String × Value))
    (distinct : (b.names ++ pairs.map (·.1)).Nodup) :
    (pairs.foldl (fun b p => b.insert p.1 p.2) b).toList = b.toList ++ pairs := by
  induction pairs generalizing b with
  | nil => simp
  | cons p ps ih =>
      have fresh : p.1 ∉ b.names := by
        intro hm
        exact (List.nodup_append.1 distinct).2.2 _ hm p.1 List.mem_cons_self rfl
      have hl : b.index.lookup p.1 = none := (lookup_index_eq_none h p.1).2 fresh
      have rest : ((b.insert p.1 p.2).names ++ ps.map (·.1)).Nodup := by
        rw [names_insert_of_fresh hl, List.append_assoc]
        exact distinct
      rw [List.foldl_cons, ih (isConsistent_insert h p.1 p.2) rest,
        toList_insert_of_fresh h fresh, List.append_assoc]
      rfl

/-- **Pairs with distinct names are held as they are, in order.** -/
theorem toList_ofList {pairs : List (String × Value)} (distinct : (pairs.map (·.1)).Nodup) :
    (ofList pairs).toList = pairs :=
  toList_foldl_insert isConsistent_empty pairs distinct

theorem ofList_append_singleton (pairs : List (String × Value)) (name : String) (v : Value) :
    ofList (pairs ++ [(name, v)]) = (ofList pairs).insert name v := by
  simp [ofList, List.foldl_append]

end Recordwise.Binding
