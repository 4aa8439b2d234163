/-
  Recordwise.Transform
  ────────────────────
  **A transform: decode, filter, evaluate, encode, one record at a time.**

  A record that cannot be decoded or encoded is rejected with its failure.
  A field whose expression fails is dropped, and the others go on; a null
  field is left unset.  When no field has a value there is no output record.
  Besides its result every step leaves the entries of its log and the cache
  of compiled patterns.  Main statement:

      run_of_decode_error — a record that cannot be decoded is rejected, with
                            one entry in the log
-/
import Recordwise.Evaluation.Expression
import Recordwise.Log
import Recordwise.Query.Plan
import Recordwise.Record.Codec
import Recordwise.Settings.Basic

namespace Recordwise

open Log Query

/-! ## §1. Results with a log. -/

/-- What a step leaves behind. -/
structure Traced (α : Type) where
  /-- The result, or why the step stopped. -/
  result : Except Halt α
  /-- The entries, in order. -/
  log : List Entry
  /-- The cache of compiled patterns. -/
  cache : DatePattern.Cache

/-- Put an entry in front of the log. -/
def Traced.report {α : Type} (e : Entry) (t : Traced α) : Traced α := { t with log := e :: t.log }

/-! ## §2. Transforms. -/

/-- A statement with everything that is needed to apply it to records. -/
structure Transform where
  /-- The resolved statement. -/
  plan : Plan
  /-- The settings of evaluation. -/
  context : Context
  /-- How records are read. -/
  decoder : Codec
  /-- How records are written. -/
  encoder : Codec

namespace Transform

/-- The entries that resolving a statement leaves. -/
def planLog (source : String) (plan : Plan) : List Entry :=
  plan.outputs.map (fun o => .compiledField o.name o.expr.render)
    ++ (plan.condition?.map fun c => Entry.compiledFilter c.render).toList
    ++ [.compiledStatement source plan.outputs.length plan.condition?.isSome]

/-- Make a transform ready, with the zones of a database: the decoder, the
encoder, the context and the statement, in this order; the first failure
counts. -/
def create (zones : Zone.Database) (settings : Settings) (source sink : Schema) :
    Except Failure (Transform × List Entry) := do
  let decoder ← source.codec
  let encoder ← sink.codec
  let context ← settings.context zones
  let (name, plan) ← compile settings.statement decoder.fields encoder.fields
  return (⟨plan, context, decoder, encoder⟩,
    planLog name plan ++ [.created plan.outputs.length context.zone.name])

/-! ## §3. Records. -/

/-- Bind the outputs that have a value, one after the other. -/
def fill (s : Scope) : List Output → Binding → DatePattern.Cache → Traced Binding
  | [], b, cache => ⟨.ok b, [], cache⟩
  | o :: os, b, cache =>
    match (s.evaluate o.expr).runWith cache with
    | (.ok .null, cache) => (fill s os b cache).report (.unset o.name)
    | (.ok v, cache) => (fill s os (b.insert o.name v) cache).report (.set o.name v.render)
    -- a field that fails does not keep the others from being bound
    | (.error (.failed f), cache) =>
      (fill s os b cache).report (.dropped (.evaluation o.name f))
    | (.error .offCalendar, cache) => ⟨.error .offCalendar, [], cache⟩

/-- Bind the outputs of a record that passed the filter; `none` when no output
has a value though there are outputs. -/
def produce (t : Transform) (s : Scope) (cache : DatePattern.Cache) : Traced (Option Binding) :=
  let filled := fill s t.plan.outputs Binding.empty cache
  match filled.result with
  | .ok b =>
    if b.isEmpty && !t.plan.outputs.isEmpty then
      ⟨.ok none, filled.log ++ [.noneSurvived], filled.cache⟩
    else ⟨.ok (some b), filled.log, filled.cache⟩
  | .error h => ⟨.error h, filled.log, filled.cache⟩

/-- Filter a decoded record and bind its outputs; `none` when there is no
output record. -/
def evaluate (t : Transform) (record : Binding) (parameters : Parameters)
    (cache : DatePattern.Cache) : Traced (Option Binding) :=
  let s : Scope := ⟨t.context, record, parameters⟩
  match t.plan.condition? with
  | none => t.produce s cache
  | some c =>
    match (s.holds c).runWith cache with
    | (.ok true, cache) => t.produce s cache
    | (.ok false, cache) => ⟨.ok none, [.filteredOut], cache⟩
    | (.error h, cache) => ⟨.error h, [], cache⟩

/-- Transform the bytes of one record into no or one output record. -/
def run (t : Transform) (bytes : List UInt8) (parameters : Parameters)
    (cache : DatePattern.Cache) : Traced (List String) :=
  match t.decoder.decode bytes with
  | .error f => ⟨.error (.failed f), [.rejected f], cache⟩
  | .ok record =>
    let evaluated := t.evaluate record parameters cache
    match evaluated.result with
    | .error h => ⟨.error h, evaluated.log, evaluated.cache⟩
    | .ok none => ⟨.ok [], evaluated.log, evaluated.cache⟩
    | .ok (some output) =>
      match t.encoder.encode output with
      | .ok s => ⟨.ok [s], evaluated.log, evaluated.cache⟩
      | .error f =>
        ⟨.error (.failed f), evaluated.log ++ [.rejected f], evaluated.cache⟩

/-- A record that cannot be decoded is rejected, with one entry in the
log. -/
theorem run_of_decode_error {t : Transform} {bytes : List UInt8} {f : Failure}
    (h : t.decoder.decode bytes = .error f) (parameters : Parameters)
    (cache : DatePattern.Cache) :
    t.run bytes parameters cache = ⟨.error (.failed f), [.rejected f], cache⟩ := by
  simp [run, h]

end Transform

end Recordwise
