/-
  Recordwise.Query.Syntax
  ───────────────────────
  **Statements: what is selected, and which records are kept.**

  A statement `select a, f(b) as x from source where …` holds one expression
  for every output field and an optional condition on the record.  `columns`
  collects the record fields that an expression or a condition reads,
  `expressions` the expressions of a condition.  Main statement:

      columns_eq_flatMap_expressions — the columns of a condition are those
                                       of its expressions
-/
import Recordwise.Value

namespace Recordwise.Query

/-! ## §1. Expressions. -/

/-- An expression has one value for every record. -/
inductive Expr where
  /-- A value written out. -/
  | literal (v : Value)
  /-- A field of the record. -/
  | column (name : String)
  /-- A parameter of the call, `$ctx.name`. -/
  | parameter (name : String)
  /-- A function applied to arguments. -/
  | call (function : String) (args : List Expr)

instance : Inhabited Expr := ⟨.literal .null⟩

mutual

/-- The columns that an expression reads, in order of appearance. -/
def Expr.columns : Expr → List String
  | .literal _ => []
  | .column name => [name]
  | .parameter _ => []
  | .call _ args => Expr.columnsOf args

/-- The columns that expressions read, in order of appearance. -/
def Expr.columnsOf : List Expr → List String
  | [] => []
  | e :: es => e.columns ++ Expr.columnsOf es

end

theorem Expr.columnsOf_eq_flatMap (es : List Expr) : Expr.columnsOf es = es.flatMap columns := by
  induction es with
  | nil => rfl
  | cons e es ih => simp [columnsOf, ih]

/-! ## §2. Conditions. -/

/-- A comparison. -/
inductive Comparison where
  /-- Written `=`. -/
  | equal
  /-- Written `!=` or `<>`. -/
  | notEqual
  /-- Written `<`. -/
  | less
  /-- Written `<=`. -/
  | lessOrEqual
  /-- Written `>`. -/
  | greater
  /-- Written `>=`. -/
  | greaterOrEqual
  deriving Repr, DecidableEq

/-- The sign of a comparison. -/
def Comparison.symbol : Comparison → String
  | .equal => "="
  | .notEqual => "!="
  | .less => "<"
  | .lessOrEqual => "<="
  | .greater => ">"
  | .greaterOrEqual => ">="

/-- A condition holds of a record or not. -/
inductive Condition where
  /-- Two values compare as asked. -/
  | compare (left : Expr) (op : Comparison) (right : Expr)
  /-- A value is null, or is not when negated. -/
  | isNull (e : Expr) (negated : Bool)
  /-- Both conditions hold. -/
  | and (left right : Condition)
  /-- One of the conditions holds. -/
  | or (left right : Condition)
  /-- The condition does not hold. -/
  | not (c : Condition)

instance : Inhabited Condition := ⟨.isNull default false⟩

namespace Condition

/-- The expressions of a condition, in order of appearance. -/
def expressions : Condition → List Expr
  | compare l _ r => [l, r]
  | isNull e _ => [e]
  | and l r => l.expressions ++ r.expressions
  | or l r => l.expressions ++ r.expressions
  | not c => c.expressions

/-- The columns that a condition reads, in order of appearance. -/
def columns : Condition → List String
  | compare l _ r => l.columns ++ r.columns
  | isNull e _ => e.columns
  | and l r => l.columns ++ r.columns
  | or l r => l.columns ++ r.columns
  | not c => c.columns

theorem columns_eq_flatMap_expressions (c : Condition) :
    c.columns = c.expressions.flatMap Expr.columns := by
  induction c with
  | compare l op r => simp [columns, expressions]
  | isNull e negated => simp [columns, expressions]
  | and l r hl hr => simp [columns, expressions, hl, hr]
  | or l r hl hr => simp [columns, expressions, hl, hr]
  | not c h => simp [columns, expressions, h]

end Condition

/-! ## §3. Statements. -/

/-- One entry of a select list. -/
structure Item where
  /-- The value of the output field. -/
  expr : Expr
  /-- The name of the output field, if the statement gives it. -/
  alias? : Option String

/-- A statement. -/
structure Statement where
  /-- The select list, in order. -/
  items : List Item
  /-- The name behind `from`. -/
  source : String
  /-- The condition behind `where`. -/
  condition? : Option Condition

end Recordwise.Query
