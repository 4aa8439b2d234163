/-
  Recordwise.Proofs.Transform.Result
  ──────────────────────────────────
  **What a transform gives for a record.**

  Over a sound cache the result of a run has a closed form, in which neither
  the cache nor the log occurs: decode, ask the condition, add what every
  output contributes, encode.  Every step leaves a sound cache.  Main
  statements:

      isSettled_fill — what outputs add, one by one
      isSettled_run  — what a run gives
-/
import Recordwise.Proofs.Evaluation.CacheIndependence
import Recordwise.Transform

namespace Recordwise

open DatePattern (Cache)
open Query

/-! ## §1. Steps over a cache. -/

/-- A step gives one result over every sound cache and keeps the cache
sound. -/
def IsSettled {α : Type} (step : Cache → Traced α) (result : Except Halt α) : Prop :=
  ∀ cache, cache.IsSound → (step cache).result = result ∧ (step cache).cache.IsSound

/-! ## §2. What outputs add. -/

/-- What one output adds to a record: a name and its value, or nothing. -/
abbrev Contribution := Except Halt (Option (String × Value))

/-- What an output contributes: its name and its value when it has one,
nothing when it is null or fails. -/
def Scope.contribution (s : Scope) (o : Output) : Contribution :=
  match s.value o.expr with
  | .ok .null => .ok none
  | .ok v => .ok (some (o.name, v))
  | .error (.failed _) => .ok none
  | .error .offCalendar => .error .offCalendar

/-- Bind a contribution. -/
def Binding.extend (b : Binding) : Option (String × Value) → Binding
  | some (name, v) => b.insert name v
  | none => b

/-- Bind contributions one after the other. -/
def Binding.extendAll (b : Binding) (cs : List Contribution) : Except Halt Binding :=
  cs.foldlM (fun b c => c.map b.extend) b

namespace Transform

/-- **Outputs are bound one by one**, each on its own. -/
theorem isSettled_fill (s : Scope) (os : List Output) (b : Binding) :
    IsSettled (fill s os b) (b.extendAll (os.map s.contribution)) := by
  induction os generalizing b with
  | nil => exact fun cache sound => ⟨rfl, sound⟩
  | cons o os ih =>
      intro cache sound
      have same : ((s.evaluate o.expr).runWith cache).1 = s.value o.expr :=
        (s.steady_evaluate o.expr).fst_eq sound
      have kept := (s.steady_evaluate o.expr).isSound sound
      rw [List.map_cons, Binding.extendAll, List.foldlM_cons, Scope.contribution, ← same, fill]
      rcases asked : (s.evaluate o.expr).runWith cache with ⟨result, next⟩
      rw [asked] at kept
      cases result with
      | ok v =>
          -- null is left out, every other value is bound
          cases v with
          | null => exact ih b next kept
          | _ => exact ih (b.insert o.name _) next kept
      | error h =>
          cases h with
          | failed f => exact ih b next kept
          | offCalendar => exact ⟨rfl, kept⟩

/-! ## §3. What a run gives. -/

variable (t : Transform)

/-- The output record, if there is one, of the outputs that were bound. -/
def survived (b : Binding) : Option Binding :=
  if b.isEmpty && !t.plan.outputs.isEmpty then none else some b

/-- What is made of the record of a scope. -/
def produced (s : Scope) : Except Halt (Option Binding) :=
  (Binding.empty.extendAll (t.plan.outputs.map s.contribution)).map t.survived

/-- Whether the record of a scope passes the filter. -/
def passes (s : Scope) : Except Halt Bool := (t.plan.condition?.map s.truth).getD (.ok true)

/-- What a decoded record becomes. -/
def evaluated (s : Scope) : Except Halt (Option Binding) := do
  if ← t.passes s then t.produced s else return none

/-- What is handed out: the text of the output record, if there is one. -/
def delivered : Option Binding → Except Halt (List String)
  | none => .ok []
  | some b => ((t.encoder.encode b).map fun text => [text]).mapError .failed

/-- What the bytes of a record become. -/
def outcome (bytes : List UInt8) (parameters : Parameters) : Except Halt (List String) := do
  let record ← (t.decoder.decode bytes).mapError .failed
  t.delivered (← t.evaluated ⟨t.context, record, parameters⟩)

theorem isSettled_produce (s : Scope) : IsSettled (t.produce s) (t.produced s) := by
  intro cache sound
  obtain ⟨same, kept⟩ := isSettled_fill s t.plan.outputs Binding.empty cache sound
  unfold produce produced
  rw [← same]
  cases filled : (fill s t.plan.outputs Binding.empty cache).result with
  | error h =>
      simp only [filled]
      exact ⟨rfl, kept⟩
  | ok b =>
      simp only [filled]
      show _ = Except.ok (if b.isEmpty && !t.plan.outputs.isEmpty then none else some b) ∧ _
      -- nothing survived, or there is an output record
      by_cases none_survived : (b.isEmpty && !t.plan.outputs.isEmpty) = true
      · rw [if_pos none_survived, if_pos none_survived]
        exact ⟨rfl, kept⟩
      · rw [if_neg none_survived, if_neg none_survived]
        exact ⟨rfl, kept⟩

theorem isSettled_evaluate (record : Binding) (parameters : Parameters) :
    IsSettled (t.evaluate record parameters) (t.evaluated ⟨t.context, record, parameters⟩) := by
  intro cache sound
  unfold evaluate evaluated passes
  cases t.plan.condition? with
  | none => exact t.isSettled_produce _ cache sound
  | some c =>
      have same := (Scope.steady_holds ⟨t.context, record, parameters⟩ c).fst_eq sound
      have kept := (Scope.steady_holds ⟨t.context, record, parameters⟩ c).isSound sound
      simp only [Option.map_some, Option.getD_some, Scope.truth]
      rw [← same]
      rcases asked : (Scope.holds ⟨t.context, record, parameters⟩ c).runWith cache with
        ⟨result, next⟩
      rw [asked] at kept
      cases result with
      | error h => exact ⟨rfl, kept⟩
      | ok holds =>
          cases holds with
          | true => exact t.isSettled_produce _ next kept
          | false => exact ⟨rfl, kept⟩

/-- **What a run gives**, over every sound cache. -/
theorem isSettled_run (bytes : List UInt8) (parameters : Parameters) :
    IsSettled (t.run bytes parameters) (t.outcome bytes parameters) := by
  intro cache sound
  unfold run outcome
  cases t.decoder.decode bytes with
  | error f => exact ⟨rfl, sound⟩
  | ok record =>
      obtain ⟨same, kept⟩ := t.isSettled_evaluate record parameters cache sound
      show _ = (t.evaluated ⟨t.context, record, parameters⟩ >>= _) ∧ _
      rw [← same]
      cases evaluated : (t.evaluate record parameters cache).result with
      | error h =>
          simp only [evaluated]
          exact ⟨rfl, kept⟩
      | ok output? =>
          simp only [evaluated]
          cases output? with
          | none => exact ⟨rfl, kept⟩
          | some b =>
              show _ = t.delivered (some b) ∧ _
              unfold delivered
              cases encoded : t.encoder.encode b with
              | ok s =>
                  simp only [encoded]
                  exact ⟨rfl, kept⟩
              | error f =>
                  simp only [encoded]
                  exact ⟨rfl, kept⟩

end Transform

end Recordwise
