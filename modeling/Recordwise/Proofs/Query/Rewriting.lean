/-
  Recordwise.Proofs.Query.Rewriting
  ─────────────────────────────────
  **Statements that are changed entry by entry.**

  Two changes keep a statement resolvable.  The entries may change places when
  each has an alias, so that no name hangs on a place; and the expression of
  an entry may become null, which reads no field and calls no function.
  Main statements:

      exists_resolve_of_isReordering — the plan of the entries in other places
      resolve_nullify                — the plan with an expression nullified
-/
import Mathlib.Data.List.Perm.Basic
import Recordwise.Proofs.Query.Resolution

namespace Recordwise.Query

/-! ## §1. The changes. -/

/-- A statement with the entries of another one in other places, where every
entry has an alias. -/
structure Statement.IsReordering (s s' : Statement) : Prop where
  /-- Every entry has an alias. -/
  aliased : ∀ item ∈ s.items, ∃ a, item.alias? = some a
  /-- The entries are the same. -/
  items : s.items.Perm s'.items
  /-- The name behind `from` is the same. -/
  source : s'.source = s.source
  /-- The condition is the same. -/
  condition : s'.condition? = s.condition?

/-- An entry with its expression made null. -/
def Item.nullify (item : Item) : Item := { item with expr := .literal .null }

/-- A statement with the expression of the entry at a place made null. -/
def Statement.nullify (s : Statement) (i : Nat) : Statement :=
  { s with items := s.items.modify i Item.nullify }

/-- An output with its expression made null. -/
def Output.nullify (o : Output) : Output := { o with expr := .literal .null }

/-- A plan with the expression of the output at a place made null. -/
def Plan.nullify (plan : Plan) (i : Nat) : Plan :=
  { plan with outputs := plan.outputs.modify i Output.nullify }

theorem Statement.IsReordering.symm {s s' : Statement} (h : s.IsReordering s') :
    s'.IsReordering s where
  aliased item listed := h.aliased item (h.items.mem_iff.2 listed)
  items := h.items.symm
  source := h.source.symm
  condition := h.condition.symm

section

variable {s s' : Statement} {source sink : List String} {plan : Plan}

/-! ## §2. Entries in other places. -/

/-- With aliases alone, no name depends on a place. -/
theorem namedExprs_of_aliased {items : List Item}
    (aliased : ∀ item ∈ items, ∃ a, item.alias? = some a) (position : Nat) :
    namedExprs sink position items = items.map fun item => (item.alias?, item.expr) := by
  induction items generalizing position with
  | nil => rfl
  | cons item items ih =>
      obtain ⟨a, named⟩ := aliased item List.mem_cons_self
      have rest := ih (fun i listed => aliased i (List.mem_cons_of_mem item listed)) (position + 1)
      unfold namedExprs at rest ⊢
      rw [List.zipIdx_cons, List.map_cons, rest, List.map_cons, Item.outputName?, named]
      rfl

theorem Output.toPair_injective : Function.Injective Output.toPair := by
  intro o p same
  cases o
  cases p
  cases same
  rfl

/-- **Entries in other places resolve to the outputs in other places.** -/
theorem exists_resolve_of_isReordering (h : s.IsReordering s')
    (resolved : s.resolve source sink = .ok plan) :
    ∃ plan', s'.resolve source sink = .ok plan' ∧ plan.outputs.Perm plan'.outputs ∧
      plan'.condition? = plan.condition? := by
  obtain ⟨each, checked, pairs, distinct, condition⟩ := resolve_eq_ok_iff.1 resolved
  have aliased' := h.symm.aliased
  have placed : ∀ i item, s'.items[i]? = some item → item.alias? = none → i < sink.length := by
    intro i item here noAlias
    obtain ⟨a, named⟩ := aliased' item (List.mem_of_getElem? here)
    rw [noAlias] at named
    cases named
  obtain ⟨outputs, pairs'⟩ := exists_outputs placed
  have perm : plan.outputs.Perm outputs := by
    rw [← List.map_perm_map_iff Output.toPair_injective, pairs, pairs',
      namedExprs_of_aliased h.aliased, namedExprs_of_aliased aliased']
    exact h.items.map _
  refine ⟨⟨outputs, s'.condition?⟩, resolve_eq_ok_iff.2 ⟨?_, ?_, pairs', ?_, rfl⟩, perm, ?_⟩
  · intro item listed
    exact each item (h.items.mem_iff.2 listed)
  · rw [h.condition]
    exact checked
  · exact (perm.map (·.name)).nodup_iff.1 distinct
  · rw [condition]
    exact h.condition

/-! ## §3. An expression made null. -/

/-- Nullifying changes no name. -/
theorem names_nullify (i : Nat) :
    (plan.nullify i).outputs.map (·.name) = plan.outputs.map (·.name) := by
  apply List.ext_getElem?
  intro j
  unfold Plan.nullify
  rw [List.getElem?_map, List.getElem?_map, List.getElem?_modify]
  cases plan.outputs[j]? with
  | none => rfl
  | some o => by_cases here : i = j <;> simp [here, Output.nullify]

theorem toPair_nullify {items : List Item}
    (pairs : plan.outputs.map Output.toPair = namedExprs sink 0 items) (i : Nat) :
    (plan.nullify i).outputs.map Output.toPair =
      namedExprs sink 0 (items.modify i Item.nullify) := by
  apply List.ext_getElem?
  intro j
  have at_place : plan.outputs[j]?.map Output.toPair =
      items[j]?.map fun item => (item.outputName? sink j, item.expr) := by
    rw [← getElem?_namedExprs, ← pairs, List.getElem?_map]
  unfold Plan.nullify
  rw [List.getElem?_map, getElem?_namedExprs, List.getElem?_modify, List.getElem?_modify]
  by_cases here : i = j
  · -- the name at the place is kept, the expression is null on both sides
    have null (o : Output) : o.nullify.toPair = (o.toPair.1, .literal .null) := rfl
    have null' (item : Item) : item.nullify.outputName? sink j = item.outputName? sink j := rfl
    have both := congrArg (Option.map fun p : Option String × Expr => (p.1, Expr.literal .null))
      at_place
    rw [Option.map_map, Option.map_map] at both
    simp only [here, if_true, Option.map_eq_map, Option.map_map]
    exact both
  · simp only [here, if_false, Option.map_eq_map, Option.map_id_fun', id_eq]
    exact at_place

/-- **A statement with an expression made null resolves** to its plan with the
same expression made null. -/
theorem resolve_nullify (resolved : s.resolve source sink = .ok plan) (i : Nat) :
    (s.nullify i).resolve source sink = .ok (plan.nullify i) := by
  obtain ⟨each, checked, pairs, distinct, condition⟩ := resolve_eq_ok_iff.1 resolved
  refine resolve_eq_ok_iff.2 ⟨?_, checked, toPair_nullify pairs i, ?_, condition⟩
  · intro item listed
    obtain ⟨j, here⟩ := List.mem_iff_getElem?.1 listed
    unfold Statement.nullify at here
    rw [List.getElem?_modify] at here
    obtain ⟨old, there, rfl⟩ := Option.map_eq_some_iff.1 here
    obtain ⟨ok, fits⟩ := each old (List.mem_of_getElem? there)
    by_cases same : i = j
    · rw [if_pos same]
      exact ⟨rfl, fits⟩
    · rw [if_neg same]
      exact ⟨ok, fits⟩
  · rw [names_nullify]
    exact distinct

end

end Recordwise.Query
