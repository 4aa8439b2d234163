/-
  Recordwise.Query.Plan
  ─────────────────────
  **Statements resolved against the fields of source and sink.**

  A plan gives every output field its name and its expression.  Resolving
  checks, entry by entry, that every column is a source field, that every
  call has an overload, that an alias names a sink field, when there are
  any, that an entry without an alias has a sink field at its place, and
  that no two outputs have one name.  Main statement:

      checkAll_append — expressions are checked one after the other
-/
import Recordwise.Builtin
import Recordwise.Query.Diagnosis
import Recordwise.Query.Printer
import Recordwise.Schema

namespace Recordwise.Query

/-! ## §1. Plans and faults. -/

/-- An output field: its name and its expression. -/
structure Output where
  /-- The name. -/
  name : String
  /-- The expression. -/
  expr : Expr

/-- A resolved statement. -/
structure Plan where
  /-- The output fields, in order. -/
  outputs : List Output
  /-- The condition on the record. -/
  condition? : Option Condition

/-- Why a statement does not resolve. -/
inductive PlanFault where
  /-- The source has no such field. -/
  | unknownColumn (name : String)
  /-- A call has no overload. -/
  | call (fault : Builtin.CallFault)
  /-- The sink has no field of an alias's name. -/
  | aliasNotInSink (name : String)
  /-- An entry has no alias, and the sink no field at its place. -/
  | noOutputName (position : Nat) (expr : String) (sinkSize : Nat)
  /-- Two outputs have one name. -/
  | duplicateOutput (name : String)
  deriving Repr, DecidableEq

/-- How a fault is reported; places count from one. -/
def PlanFault.message : PlanFault → String
  | .unknownColumn name => "Unknown column: " ++ name
  | .call fault => fault.message
  | .aliasNotInSink name => "Alias '" ++ name ++ "' does not name a sink field"
  | .noOutputName position expr sinkSize =>
    "Select item " ++ Nat.repr (position + 1) ++ " (" ++ expr
      ++ ") has no alias and no sink field at that position (" ++ Nat.repr sinkSize
      ++ " sink fields)"
  | .duplicateOutput name => "Duplicate output name '" ++ name ++ "'"

/-- A fault as a failure. -/
def PlanFault.failure (f : PlanFault) : Failure := .parse f.message

/-! ## §2. Expressions. -/

mutual

/-- Check the columns and the calls of an expression, a call before its
arguments. -/
def check (source : List String) : Expr → Except PlanFault Unit
  | .literal _ => .ok ()
  | .parameter _ => .ok ()
  | .column name => if name ∈ source then .ok () else .error (.unknownColumn name)
  | .call function args =>
    match Builtin.check function args.length with
    | .ok _ => checkAll source args
    | .error e => .error (.call e)

/-- Check expressions one after the other. -/
def checkAll (source : List String) : List Expr → Except PlanFault Unit
  | [] => .ok ()
  | e :: es =>
    match check source e with
    | .ok () => checkAll source es
    | .error f => .error f

end

theorem checkAll_append (source : List String) (es fs : List Expr) :
    checkAll source (es ++ fs) =
      match checkAll source es with
      | .ok () => checkAll source fs
      | .error f => .error f := by
  induction es with
  | nil => simp [checkAll]
  | cons e es ih =>
    simp only [List.cons_append, checkAll]
    cases check source e with
    | ok u => simpa using ih
    | error f => rfl

/-! ## §3. Output names. -/

/-- The name of an output: its alias, or the sink field at its place. -/
def outputName (sink : List String) (position : Nat) (item : Item) : Except PlanFault String :=
  match item.alias? with
  | some a => if sink = [] ∨ a ∈ sink then .ok a else .error (.aliasNotInSink a)
  | none =>
    match sink[position]? with
    | some n => .ok n
    | none => .error (.noOutputName position item.expr.render sink.length)

/-- Resolve the entries from a place on; `taken` are the names before it. -/
def resolveItems (source sink : List String) (position : Nat) (taken : List String) :
    List Item → Except PlanFault (List Output)
  | [] => .ok []
  | item :: items => do
    check source item.expr
    let name ← outputName sink position item
    if name ∈ taken then throw (.duplicateOutput name)
    let rest ← resolveItems source sink (position + 1) (name :: taken) items
    return ⟨name, item.expr⟩ :: rest

/-! ## §4. Statements. -/

/-- Check the expressions of an optional condition. -/
def checkCondition (source : List String) : Option Condition → Except PlanFault Unit
  | none => .ok ()
  | some c => checkAll source c.expressions

/-- Resolve a statement against the names of source and sink fields. -/
def Statement.resolve (s : Statement) (source sink : List String) : Except PlanFault Plan := do
  let outputs ← resolveItems source sink 0 [] s.items
  checkCondition source s.condition?
  return ⟨outputs, s.condition?⟩

/-- Read and resolve a statement; the name behind `from` is kept beside the
plan. -/
def compile (text : String) (source sink : List Field) : Except Failure (String × Plan) := do
  let s ← parseStatement text
  match s.resolve (source.map (·.name)) (sink.map (·.name)) with
  | .ok plan => return (s.source, plan)
  | .error f => throw f.failure

end Recordwise.Query
