/-
  Recordwise.Evaluation.Expression
  ────────────────────────────────
  **The value of an expression and the truth of a condition.**

  An expression is evaluated for one record: a column that the record lacks
  and a parameter that the call lacks are null.  Two values compare as
  numbers when both are numeric and as texts otherwise; nothing compares
  with null or with NaN.  Main statements:

      evaluate_column_missing — a column that is not bound is null
      compares_null_left      — null compares with nothing
-/
import Recordwise.Binding
import Recordwise.Builtin
import Recordwise.Query.Syntax

namespace Recordwise

open Query

/-! ## §1. Scopes. -/

/-- The parameters of a call. -/
abbrev Parameters := List (String × Value)

/-- What an expression is evaluated in. -/
structure Scope where
  /-- The settings. -/
  context : Context
  /-- The record. -/
  binding : Binding
  /-- The parameters of the call. -/
  parameters : Parameters

namespace Scope

/-- The value of a column; null when the record lacks it. -/
def column (s : Scope) (name : String) : Value := (s.binding.get? name).getD .null

/-- The value of a parameter; null when the call lacks it. -/
def parameter (s : Scope) (name : String) : Value := (s.parameters.lookup name).getD .null

/-! ## §2. Expressions. -/

mutual

/-- The value of an expression. -/
def evaluate (s : Scope) : Expr → Eval Value
  | .literal v => pure v
  | .column name => pure (s.column name)
  | .parameter name => pure (s.parameter name)
  | .call function args => do Builtin.call s.context function (← evaluateAll s args)

/-- The values of expressions, one after the other. -/
def evaluateAll (s : Scope) : List Expr → Eval (List Value)
  | [] => pure []
  | e :: es => do
    let v ← evaluate s e
    let vs ← evaluateAll s es
    return v :: vs

end

theorem evaluate_column_missing {s : Scope} {name : String} (h : s.binding.get? name = none) :
    s.evaluate (.column name) = pure .null := by
  simp [evaluate, column, h]

end Scope

/-! ## §3. Comparisons. -/

/-- The order of two numbers; `none` with NaN. -/
def orderFloats (x y : Float) : Option Ordering :=
  if x < y then some .lt else if x == y then some .eq else if y < x then some .gt else none

/-- The order of two texts, by code points. -/
def orderTexts : List Char → List Char → Ordering
  | [], [] => .eq
  | [], _ :: _ => .lt
  | _ :: _, [] => .gt
  | c :: cs, d :: ds =>
    if c.toNat < d.toNat then .lt else if d.toNat < c.toNat then .gt else orderTexts cs ds

/-- The order of two values that are not null: as numbers when both are
numeric, as texts otherwise. -/
def orderValues (v w : Value) : Option Ordering :=
  match v.asFloat?, w.asFloat? with
  | some x, some y =>
    -- a truth value has a number but compares by its text
    if v.isNumeric && w.isNumeric then orderFloats x y
    else some (orderTexts v.render.toList w.render.toList)
  | _, _ => some (orderTexts v.render.toList w.render.toList)

/-- Whether an order is one that a comparison asks for. -/
def Query.Comparison.admits : Comparison → Ordering → Bool
  | .equal, o => o == .eq
  | .notEqual, o => o != .eq
  | .less, o => o == .lt
  | .lessOrEqual, o => o != .gt
  | .greater, o => o == .gt
  | .greaterOrEqual, o => o != .lt

/-- Whether two values compare as asked. -/
def compares (v : Value) (op : Comparison) (w : Value) : Bool :=
  if v.isNull || w.isNull then false
  else match orderValues v w with
  | some o => op.admits o
  | none => false

theorem compares_null_left (op : Comparison) (w : Value) : compares .null op w = false := rfl

/-! ## §4. Conditions. -/

/-- Whether a condition holds; the second part of `and` and of `or` is
evaluated only when the first does not decide. -/
def Scope.holds (s : Scope) : Condition → Eval Bool
  | .compare l op r => do
    let v ← s.evaluate l
    let w ← s.evaluate r
    return compares v op w
  | .isNull e negated => do
    let v ← s.evaluate e
    return v.isNull != negated
  | .and l r => do
    let b ← s.holds l
    if b then s.holds r else return false
  | .or l r => do
    let b ← s.holds l
    if b then return true else s.holds r
  | .not c => do
    let b ← s.holds c
    return !b

end Recordwise
