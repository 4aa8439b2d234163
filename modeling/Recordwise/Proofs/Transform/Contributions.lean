/-
  Recordwise.Proofs.Transform.Contributions
  ─────────────────────────────────────────
  **A run depends on what its outputs contribute, not on their order.**

  What is written of an output record are the values of its names.  So two
  transforms that differ only in their outputs give one result for a record
  for which these contribute the same, be it in another order: an output that
  fails or is null contributes nothing, and a local time off the calendar
  stops the run wherever it stands.  Main statements:

      extendAll_perm — contributions bind the same values in any order
      encode_congr   — what is written depends on the values of names
      outcome_congr  — transforms whose outputs contribute alike
-/
import Recordwise.Proofs.Binding.Lookup
import Recordwise.Proofs.Failure.EveryMember
import Recordwise.Proofs.Transform.Result

namespace Recordwise

open Query

/-! ## §1. Contributions in any order. -/

namespace Binding

variable {b : Binding} {cs ds : List Contribution}

/-- Contributions that are there are bound, the others left out. -/
theorem extendAll_ok (b : Binding) (ps : List (Option (String × Value))) :
    b.extendAll (ps.map .ok) =
      .ok ((ps.filterMap id).foldl (fun b p => b.insert p.1 p.2) b) := by
  induction ps generalizing b with
  | nil => rfl
  | cons p ps ih =>
      cases p with
      | none => exact ih b
      | some pair => exact ih (b.insert pair.1 pair.2)

/-- Contributions stop for the calendar wherever they leave it. -/
theorem extendAll_offCalendar (only : ∀ h, .error h ∈ cs → h = .offCalendar)
    (off : .error .offCalendar ∈ cs) : b.extendAll cs = .error .offCalendar := by
  induction cs generalizing b with
  | nil => cases off
  | cons c cs ih =>
      cases c with
      | error h =>
          -- the first failure counts, and it can only be this one
          obtain rfl := only h List.mem_cons_self
          rfl
      | ok p =>
          have behind : .error .offCalendar ∈ cs := by
            cases off with
            | tail _ listed => exact listed
          exact ih (fun h listed => only h (List.mem_cons_of_mem _ listed)) behind

/-- Two bindings that are written alike. -/
structure IsAlike (b c : Binding) : Prop where
  /-- Both are empty or none is. -/
  isEmpty : b.isEmpty = c.isEmpty
  /-- The names have the same values. -/
  get? : ∀ name, b.get? name = c.get? name

/-- **Contributions with distinct names bind the same values in any order**,
or stop alike. -/
theorem extendAll_perm (perm : cs.Perm ds) (only : ∀ h, .error h ∈ cs → h = .offCalendar)
    (distinct : ((cs.filterMap fun c => c.toOption.join).map (·.1)).Nodup) :
    (empty.extendAll cs = .error .offCalendar ∧ empty.extendAll ds = .error .offCalendar) ∨
      ∃ b c, empty.extendAll cs = .ok b ∧ empty.extendAll ds = .ok c ∧ b.IsAlike c := by
  by_cases off : .error .offCalendar ∈ cs
  · left
    refine ⟨extendAll_offCalendar only off, extendAll_offCalendar ?_ (perm.mem_iff.1 off)⟩
    exact fun h listed => only h (perm.mem_iff.2 listed)
  · right
    -- all are there, on both sides, and what they bind is the same in another order
    have there : ∀ h, .error h ∉ cs := fun h listed => off (only h listed ▸ listed)
    obtain ⟨ps, rfl⟩ := exists_map_ok there
    obtain ⟨qs, rfl⟩ := exists_map_ok fun h listed => there h (perm.mem_iff.2 listed)
    have perm : (ps.filterMap id).Perm (qs.filterMap id) :=
      ((List.map_perm_map_iff fun _ _ same => Except.ok.inj same).1 perm).filterMap id
    have pairs : (ps.map .ok).filterMap (fun c : Contribution => c.toOption.join) =
        ps.filterMap id := by
      rw [List.filterMap_map]
      rfl
    rw [pairs] at distinct
    have distinct' := (perm.map (·.1)).nodup_iff.1 distinct
    refine ⟨ofList (ps.filterMap id), ofList (qs.filterMap id), extendAll_ok empty ps,
      extendAll_ok empty qs, ?_, get?_ofList_perm perm distinct⟩
    rw [isEmpty_ofList distinct, isEmpty_ofList distinct', Bool.eq_iff_iff, List.isEmpty_iff,
      List.isEmpty_iff]
    exact ⟨fun h => List.nil_perm.1 (h ▸ perm), fun h => List.perm_nil.1 (h ▸ perm)⟩

end Binding

namespace Scope

variable (s : Scope)

/-- **What an output can contribute**: nothing, a value under its name, or the
end of the run. -/
theorem contribution_cases (o : Output) :
    s.contribution o = .ok none ∨ (∃ v, s.contribution o = .ok (some (o.name, v))) ∨
      s.contribution o = .error .offCalendar := by
  unfold contribution
  cases s.value o.expr with
  | ok v =>
      cases v with
      | null => exact .inl rfl
      | _ => exact .inr (.inl ⟨_, rfl⟩)
  | error h =>
      cases h with
      | failed f => exact .inl rfl
      | offCalendar => exact .inr (.inr rfl)

/-- No failure is among the contributions, only the end of the calendar. -/
theorem eq_offCalendar_of_mem_contributions {os : List Output} {h : Halt}
    (listed : .error h ∈ os.map s.contribution) : h = .offCalendar := by
  obtain ⟨o, -, stopped⟩ := List.mem_map.1 listed
  rcases s.contribution_cases o with nothing | ⟨v, added⟩ | off
  · rw [nothing] at stopped
    cases stopped
  · rw [added] at stopped
    cases stopped
  · rw [off] at stopped
    exact (Except.error.inj stopped).symm

/-- An output stops the run for the calendar when its expression leaves it. -/
theorem contribution_eq_offCalendar_iff (o : Output) :
    s.contribution o = .error .offCalendar ↔ s.value o.expr = .error .offCalendar := by
  unfold contribution
  cases s.value o.expr with
  | ok v => cases v <;> exact ⟨nofun, nofun⟩
  | error h =>
      cases h with
      | failed f => exact ⟨nofun, nofun⟩
      | offCalendar => exact ⟨fun _ => rfl, fun _ => rfl⟩

/-- The names that are contributed are among those of the outputs, in
order. -/
theorem names_contributions_sublist (os : List Output) :
    (((os.map s.contribution).filterMap fun c => c.toOption.join).map (·.1)).Sublist
      (os.map (·.name)) := by
  induction os with
  | nil => exact .slnil
  | cons o os ih =>
      rw [List.map_cons, List.map_cons]
      -- only an output that adds a value keeps its name
      rcases s.contribution_cases o with nothing | ⟨v, added⟩ | off
      · rw [nothing]
        exact ih.cons _
      · rw [added]
        exact ih.cons_cons _
      · rw [off]
        exact ih.cons _

end Scope

/-! ## §2. Writing. -/

/-- **What is written depends on the values of names alone.** -/
theorem Codec.encode_congr {b c : Binding} (same : ∀ name, b.get? name = c.get? name)
    (codec : Codec) : codec.encode b = codec.encode c := by
  have resolved (f : Field) : Record.resolveField f b = Record.resolveField f c := by
    unfold Record.resolveField
    rw [same]
  have text : codec.writeText b = codec.writeText c := by
    unfold writeText
    cases codec.layout with
    | delimited delimiter esc =>
        have field : Record.delimitedField delimiter esc b =
            Record.delimitedField delimiter esc c :=
          funext fun f => by rw [Record.delimitedField, resolved, Record.delimitedField]
        show Record.writeDelimited delimiter esc codec.fields b = _
        rw [Record.writeDelimited, field]
        rfl
    | keyed entry pair =>
        have field : Record.keyedEntry entry pair b = Record.keyedEntry entry pair c :=
          funext fun f => by rw [Record.keyedEntry, resolved, Record.keyedEntry]
        show Record.writeKeyed entry pair codec.fields b = _
        rw [Record.writeKeyed, field]
        rfl
  unfold encode
  rw [text]

/-! ## §3. Runs. -/

namespace Transform

variable {t u : Transform}

/-- Binding outputs stops for the calendar exactly where an output does. -/
theorem produced_eq_offCalendar_iff {s : Scope} : t.produced s = .error .offCalendar ↔
    ∃ o ∈ t.plan.outputs, s.value o.expr = .error .offCalendar := by
  have only : ∀ h, .error h ∈ t.plan.outputs.map s.contribution → h = .offCalendar :=
    fun _ => s.eq_offCalendar_of_mem_contributions
  have stops : .error .offCalendar ∈ t.plan.outputs.map s.contribution ↔
      ∃ o ∈ t.plan.outputs, s.value o.expr = .error .offCalendar := by
    simp only [List.mem_map, s.contribution_eq_offCalendar_iff]
  rw [← stops]
  unfold produced
  constructor
  · intro left
    refine Classical.byContradiction fun stays => ?_
    obtain ⟨ps, all⟩ := exists_map_ok fun h listed => stays (only h listed ▸ listed)
    rw [all, Binding.extendAll_ok] at left
    cases left
  · intro off
    rw [Binding.extendAll_offCalendar only off]
    rfl

/-- An output that leaves the calendar ends the run, when the record is read
and passes the filter. -/
theorem outcome_of_offCalendar {bytes : List UInt8} {parameters : Parameters} {record : Binding}
    (decoded : t.decoder.decode bytes = .ok record)
    (passed : t.passes ⟨t.context, record, parameters⟩ = .ok true) {o : Output}
    (listed : o ∈ t.plan.outputs)
    (off : (Scope.mk t.context record parameters).value o.expr = .error .offCalendar) :
    t.outcome bytes parameters = .error .offCalendar := by
  have stops : t.evaluated ⟨t.context, record, parameters⟩ = .error .offCalendar := by
    rw [evaluated, passed]
    exact produced_eq_offCalendar_iff.2 ⟨o, listed, off⟩
  unfold outcome
  rw [decoded]
  show t.evaluated ⟨t.context, record, parameters⟩ >>= t.delivered = _
  rw [stops]
  rfl

/-- Bindings that are written alike are delivered alike, where both transforms
have outputs or neither has. -/
theorem delivered_survived_congr (encoder : u.encoder = t.encoder)
    (count : u.plan.outputs.isEmpty = t.plan.outputs.isEmpty) {b c : Binding}
    (alike : b.IsAlike c) : t.delivered (t.survived b) = u.delivered (u.survived c) := by
  unfold survived
  rw [count, ← alike.isEmpty]
  by_cases none_survived : (b.isEmpty && !t.plan.outputs.isEmpty) = true
  · rw [if_pos none_survived, if_pos none_survived]
    rfl
  · rw [if_neg none_survived, if_neg none_survived]
    show ((t.encoder.encode b).map _).mapError Halt.failed = _
    rw [Codec.encode_congr alike.get?, ← encoder]
    rfl

/-- Outputs that contribute alike to a record are delivered alike. -/
theorem delivered_produced_congr (encoder : u.encoder = t.encoder)
    (distinct : (t.plan.outputs.map (·.name)).Nodup) {s : Scope}
    (perm : (t.plan.outputs.map s.contribution).Perm (u.plan.outputs.map s.contribution)) :
    t.produced s >>= t.delivered = u.produced s >>= u.delivered := by
  have count : u.plan.outputs.isEmpty = t.plan.outputs.isEmpty := by
    have length := perm.length_eq
    rw [List.length_map, List.length_map] at length
    rw [Bool.eq_iff_iff, List.isEmpty_iff_length_eq_zero, List.isEmpty_iff_length_eq_zero, length]
  have names := (s.names_contributions_sublist t.plan.outputs).nodup distinct
  unfold produced
  rcases Binding.extendAll_perm perm (fun _ => s.eq_offCalendar_of_mem_contributions) names with
    ⟨off, off'⟩ | ⟨b, c, bound, bound', alike⟩
  · rw [off, off']
    rfl
  · rw [bound, bound']
    exact delivered_survived_congr encoder count alike

/-- **Transforms whose outputs contribute alike** for a record give one result
for it, if they are the same otherwise. -/
theorem outcome_congr (context : u.context = t.context) (decoder : u.decoder = t.decoder)
    (encoder : u.encoder = t.encoder) (condition : u.plan.condition? = t.plan.condition?)
    (distinct : (t.plan.outputs.map (·.name)).Nodup) {bytes : List UInt8} {parameters : Parameters}
    (perm : ∀ record, t.decoder.decode bytes = .ok record →
      (t.plan.outputs.map (Scope.mk t.context record parameters).contribution).Perm
        (u.plan.outputs.map (Scope.mk t.context record parameters).contribution)) :
    t.outcome bytes parameters = u.outcome bytes parameters := by
  unfold outcome
  rw [decoder]
  cases decoded : t.decoder.decode bytes with
  | error f => rfl
  | ok record =>
      show (t.evaluated ⟨t.context, record, parameters⟩ >>= t.delivered) =
        (u.evaluated ⟨u.context, record, parameters⟩ >>= u.delivered)
      unfold evaluated passes
      rw [context, condition]
      -- the condition decides alike, so what is left is a record that passes
      cases (t.plan.condition?.map
          (Scope.mk t.context record parameters).truth).getD (.ok true) with
      | error h => rfl
      | ok holds =>
          cases holds with
          | false => rfl
          | true => exact delivered_produced_congr encoder distinct (perm record decoded)

end Transform

end Recordwise
