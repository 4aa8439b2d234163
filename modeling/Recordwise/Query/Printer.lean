/-
  Recordwise.Query.Printer
  ────────────────────────
  **Statements as text.**

  Texts are quoted singly, a quote inside them doubled; names are written as
  they are.  `and` and `or` stand in parentheses, and so does what `not`
  negates.  Main statement:

      renderArgs_eq_intercalate — the arguments of a call stand between commas
-/
import Recordwise.Query.Syntax

namespace Recordwise.Query

/-- Double the single quotes of a text. -/
def doubleQuotes : List Char → List Char
  | [] => []
  | c :: cs => if c = '\'' then c :: c :: doubleQuotes cs else c :: doubleQuotes cs

/-- A value as an expression writes it. -/
def renderLiteral : Value → String
  | .null => "null"
  | .text s => "'" ++ String.ofList (doubleQuotes s.toList) ++ "'"
  | v => v.render

mutual

/-- The text of an expression. -/
def Expr.render : Expr → String
  | .literal v => renderLiteral v
  | .column name => name
  | .parameter name => "$ctx." ++ name
  | .call function args => function ++ "(" ++ Expr.renderArgs args ++ ")"

/-- The texts of arguments, between commas. -/
def Expr.renderArgs : List Expr → String
  | [] => ""
  | [e] => e.render
  | e :: es => e.render ++ ", " ++ Expr.renderArgs es

end

/-- Arguments stand between commas. -/
theorem Expr.renderArgs_eq_intercalate (args : List Expr) :
    Expr.renderArgs args = String.intercalate ", " (args.map Expr.render) := by
  induction args with
  | nil => simp [Expr.renderArgs]
  | cons e es ih =>
    cases es with
    | nil => simp [Expr.renderArgs]
    | cons f fs =>
      simp only [List.map_cons] at ih
      simp only [Expr.renderArgs, ih, List.map_cons, String.intercalate_cons_cons]

/-- The text of a condition. -/
def Condition.render : Condition → String
  | .compare l op r => l.render ++ " " ++ op.symbol ++ " " ++ r.render
  | .isNull e true => e.render ++ " is not null"
  | .isNull e false => e.render ++ " is null"
  | .and l r => "(" ++ l.render ++ " and " ++ r.render ++ ")"
  | .or l r => "(" ++ l.render ++ " or " ++ r.render ++ ")"
  | .not c => "not (" ++ c.render ++ ")"

/-- The text of an entry of a select list. -/
def Item.render (item : Item) : String :=
  match item.alias? with
  | some name => item.expr.render ++ " as " ++ name
  | none => item.expr.render

/-- The text of a statement. -/
def Statement.render (s : Statement) : String :=
  "select " ++ String.intercalate ", " (s.items.map Item.render) ++ " from " ++ s.source ++
    match s.condition? with
    | some c => " where " ++ c.render
    | none => ""

end Recordwise.Query
