/-
  Recordwise.Proofs.Binding.Arrival
  ─────────────────────────────────
  **What a run of insertions leaves.**

  One insertion changes the value of its own name and of no other, and puts a
  name that is new behind all others.  So a run of insertions from the empty
  binding leaves the names in the order of their first arrival, each with the
  value that arrived last.  Main statements:

      get?_insert       — the values after one insertion
      names_ofList      — the names after a run of insertions
      get?_ofList       — the values after a run of insertions
      summarizes_ofList — both at once, said of the insertions themselves
      inStep_of_isRunOf — entries, index and lookups after any insertions
-/
import Recordwise.Proofs.Binding.Lookup
import Recordwise.Proofs.Listing.Distinct

namespace Recordwise.Binding

/-! ## §1. One insertion. -/

theorem names_insert {b : Binding} (h : b.IsConsistent) (name : String) (v : Value) :
    (b.insert name v).names = if name ∈ b.names then b.names else b.names ++ [name] := by
  cases hl : b.index.lookup name with
  | some i =>
      have bound : name ∈ b.names :=
        List.mem_of_getElem? ((lookup_index_eq_some_iff h).1 hl)
      rw [names_insert_of_bound hl, if_pos bound]
  | none => rw [names_insert_of_fresh hl, if_neg ((lookup_index_eq_none h name).1 hl)]

/-- **The values after one insertion**: the name has the new value, and every
other name the value that it had. -/
theorem get?_insert {b : Binding} (h : b.IsConsistent) (name other : String) (v : Value) :
    (b.insert name v).get? other = if other = name then some v else b.get? other := by
  cases hl : b.index.lookup name with
  | some i =>
      -- the index stays, and one place changes
      obtain ⟨w, here⟩ : ∃ w, b.entries[i]? = some (name, w) :=
        (lookup_index_eq_some_iff_entry h).1 hl
      unfold get?
      rw [index_insert_of_bound hl, entries_insert_of_bound hl]
      by_cases same : other = name
      · rw [same, if_pos rfl, hl]
        simp [here]
      · rw [if_neg same]
        cases ho : b.index.lookup other with
        | none => rfl
        | some j =>
            obtain ⟨x, there⟩ : ∃ x, b.entries[j]? = some (other, x) :=
              (lookup_index_eq_some_iff_entry h).1 ho
            have apart : i ≠ j := by
              rintro rfl
              rw [here] at there
              exact same (congrArg Prod.fst (Option.some.inj there)).symm
            simp [apart]
  | none =>
      -- one entry comes behind the others, which have other names
      have fresh : name ∉ b.names := (lookup_index_eq_none h name).1 hl
      have absent : b.toList.lookup name = none := Listing.lookup_eq_none_iff_notMem.2 fresh
      rw [get?_eq_lookup (isConsistent_insert h name v), get?_eq_lookup h,
        toList_insert_of_fresh h fresh, List.lookup_append]
      by_cases same : other = name
      · rw [same, if_pos rfl, absent, Option.none_or, List.lookup_cons_self]
      · have elsewhere : List.lookup other [(name, v)] = none := by simp [same]
        rw [if_neg same, elsewhere, Option.or_none]

/-! ## §2. A run of insertions. -/

/-- **The names after a run of insertions**, in the order of their first
arrival. -/
theorem names_ofList (pairs : List (String × Value)) :
    (ofList pairs).names = (pairs.map (·.1)).eraseDups := by
  induction pairs using List.reverseRecOn with
  | nil => rfl
  | append_singleton pairs p ih =>
      rw [ofList_append_singleton, names_insert (isConsistent_ofList pairs), ih, List.map_append,
        List.map_singleton, Listing.eraseDups_append_singleton]
      simp only [List.mem_eraseDups]

/-- **The values after a run of insertions**: of every name the one that
arrived last. -/
theorem get?_ofList (pairs : List (String × Value)) (name : String) :
    (ofList pairs).get? name = pairs.reverse.lookup name := by
  induction pairs using List.reverseRecOn with
  | nil => rfl
  | append_singleton pairs p ih =>
      rw [ofList_append_singleton, get?_insert (isConsistent_ofList pairs), ih,
        List.reverse_append, List.reverse_singleton, List.singleton_append, List.lookup_cons]
      by_cases same : name = p.1
      · rw [if_pos same, same, beq_self_eq_true]
      · rw [if_neg same, beq_eq_false_iff_ne.2 same]

/-- There are as many names as are different. -/
theorem size_ofList (pairs : List (String × Value)) :
    (ofList pairs).size = (pairs.map (·.1)).toFinset.card := by
  have names : (ofList pairs).names.length = (ofList pairs).size := List.length_map _
  rw [← names, names_ofList, Listing.length_eraseDups]

/-! ## §3. What a run amounts to. -/

/-- The binding is what the pairs leave when they are inserted one after the
other, from the empty binding on. -/
inductive IsRunOf : Binding → List (String × Value) → Prop
  /-- Nothing is inserted yet. -/
  | start : IsRunOf ∅ []
  /-- One more pair is inserted. -/
  | insert {b : Binding} {pairs : List (String × Value)} (name : String) (v : Value) :
      IsRunOf b pairs → IsRunOf (b.insert name v) (pairs ++ [(name, v)])

/-- **The pairs can always be inserted**, and leave what collecting them gives. -/
theorem isRunOf_iff_eq_ofList {b : Binding} {pairs : List (String × Value)} :
    b.IsRunOf pairs ↔ b = ofList pairs := by
  constructor
  · intro run
    induction run with
    | start => rfl
    | insert name v run ih => rw [ih, ofList_append_singleton]
  · rintro rfl
    induction pairs using List.reverseRecOn with
    | nil => exact .start
    | append_singleton pairs p ih =>
        rw [ofList_append_singleton]
        exact .insert p.1 p.2 ih

/-- Some entries sum up some insertions. -/
structure Summarizes (entries pairs : List (String × Value)) : Prop where
  /-- A name stands beside the value of its last insertion, and beside no
  other. -/
  last (name : String) (v : Value) : (name, v) ∈ entries ↔
    ∃ before after, pairs = before ++ (name, v) :: after ∧ name ∉ after.map (·.1)
  /-- The names stand in the order of their first insertions, each once. -/
  order : (entries.map (·.1)).Pairwise fun m n =>
    (pairs.map (·.1)).idxOf m < (pairs.map (·.1)).idxOf n

/-- **The entries sum up the insertions.** -/
theorem summarizes_ofList (pairs : List (String × Value)) :
    Summarizes (ofList pairs).toList pairs where
  last name v := by
    rw [← get?_eq_some_iff (isConsistent_ofList pairs), get?_ofList,
      Listing.lookup_reverse_eq_some_iff]
  order := by
    have names : (ofList pairs).toList.map (·.1) = (pairs.map (·.1)).eraseDups :=
      names_ofList pairs
    rw [names]
    exact Listing.pairwise_eraseDups _

/-- The entries and the index of a binding are in step with some insertions. -/
structure InStep (b : Binding) (pairs : List (String × Value)) : Prop where
  /-- The index lists the names of the entries with their positions, and no
  name occurs twice. -/
  consistent : b.IsConsistent
  /-- The index gives the place of every entry, and no place without one. -/
  place (name : String) (i : Nat) :
    b.index.lookup name = some i ↔ ∃ v, b.toList[i]? = some (name, v)
  /-- The entries sum up the insertions. -/
  summary : Summarizes b.toList pairs
  /-- The value of a name is the one that stands beside it. -/
  value (name : String) : b.get? name = b.toList.lookup name
  /-- A name is bound when it has an entry. -/
  bound (name : String) : b.contains name = true ↔ ∃ v, (name, v) ∈ b.toList
  /-- The entries are counted. -/
  count : b.size = b.toList.length
  /-- There is one for each name that was inserted. -/
  distinct : b.size = (pairs.map (·.1)).toFinset.card
  /-- Collecting the pairs gives the same binding. -/
  collected : ofList pairs = b

/-- **Whatever is inserted, in whatever order and however often**, the entries
and the index stay in step with it. -/
theorem inStep_of_isRunOf {b : Binding} {pairs : List (String × Value)} (run : b.IsRunOf pairs) :
    b.InStep pairs := by
  obtain rfl := isRunOf_iff_eq_ofList.1 run
  have consistent := isConsistent_ofList pairs
  exact {
    consistent := consistent
    place := fun _ _ => lookup_index_eq_some_iff_entry consistent
    summary := summarizes_ofList pairs
    value := get?_eq_lookup consistent
    bound := contains_iff consistent
    count := rfl
    distinct := size_ofList pairs
    collected := rfl }

/-- A name that is inserted again behind another one keeps its place and takes
the new value. -/
theorem inStep_of_isRunOf_again :
    (⟨[("b", .text "3"), ("a", .null)], [("b", 0), ("a", 1)]⟩ : Binding).IsRunOf
        [("b", .text "1"), ("a", .null), ("b", .text "3")] ∧
      (⟨[("b", .text "3"), ("a", .null)], [("b", 0), ("a", 1)]⟩ : Binding).InStep
        [("b", .text "1"), ("a", .null), ("b", .text "3")] := by
  have run : (⟨[("b", .text "3"), ("a", .null)], [("b", 0), ("a", 1)]⟩ : Binding).IsRunOf
      [("b", .text "1"), ("a", .null), ("b", .text "3")] :=
    ((IsRunOf.start.insert "b" (.text "1")).insert "a" .null).insert "b" (.text "3")
  exact ⟨run, inStep_of_isRunOf run⟩

end Recordwise.Binding
