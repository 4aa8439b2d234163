/-
  Recordwise.Query.Parser
  ───────────────────────
  **The grammar of statements, over tokens.**

      statement   = select items from name [where condition] [;]
      item        = expr [as name]
      expr        = call | literal | parameter | name | ( expr )
      condition   = conjunction { or conjunction }
      conjunction = factor { and factor }
      factor      = not factor | ( condition ) | test
      test        = expr is [not] null | expr comparison expr

  Chains of `and` and of `or` nest to the left.  A factor that begins with a
  parenthesis is read as a condition in parentheses if it can be, else as a
  test.  Every function takes a bound on the number of steps; the functions
  that read whole texts give a bound that no text exceeds.  Main statement:

      expr_literal — a literal token is an expression
-/
import Recordwise.Query.Token

namespace Recordwise.Query

/-- A part that was read, and the tokens behind it. -/
abbrev Parsed (α : Type) := Option (α × List Token)

/-! ## §1. Expressions. -/

/-- The value that a keyword stands for. -/
def keywordValue? (w : String) : Option Value :=
  if isWord "null" w then some .null
  else if isWord "true" w then some (.boolean true)
  else if isWord "false" w then some (.boolean false)
  else none

mutual

/-- Read an expression. -/
def expr : Nat → List Token → Parsed Expr
  | 0, _ => none
  | _ + 1, .literal v :: ts => some (.literal v, ts)
  | _ + 1, .parameter p :: ts => some (.parameter p, ts)
  | _ + 1, .quotedName name :: ts => some (.column name, ts)
  | n + 1, .word w :: .opening :: ts =>
    if isKeyword w then none
    else (arguments n ts).map fun p => (.call (Text.asciiLowered w) p.1, p.2)
  | _ + 1, .word w :: ts =>
    match keywordValue? w with
    | some v => some (.literal v, ts)
    | none => if isKeyword w then none else some (.column w, ts)
  | n + 1, .opening :: ts =>
    match expr n ts with
    | some (e, .closing :: r) => some (e, r)
    | _ => none
  | _ + 1, _ => none

/-- Read arguments up to the closing parenthesis. -/
def arguments : Nat → List Token → Parsed (List Expr)
  | 0, _ => none
  | _ + 1, .closing :: ts => some ([], ts)
  | n + 1, ts => argumentsFrom n ts

/-- Read one argument or more up to the closing parenthesis. -/
def argumentsFrom : Nat → List Token → Parsed (List Expr)
  | 0, _ => none
  | n + 1, ts =>
    match expr n ts with
    | some (e, .closing :: r) => some ([e], r)
    | some (e, .comma :: r) => (argumentsFrom n r).map fun p => (e :: p.1, p.2)
    | _ => none

end

theorem expr_literal (n : Nat) (v : Value) (ts : List Token) :
    expr (n + 1) (.literal v :: ts) = some (.literal v, ts) := by
  simp [expr]

/-! ## §2. Conditions. -/

/-- Read a comparison or a test for null. -/
def test (n : Nat) (ts : List Token) : Parsed Condition :=
  match expr n ts with
  | some (l, .comparison op :: r) => (expr n r).map fun p => (.compare l op p.1, p.2)
  | some (e, .word is_ :: .word w :: r) =>
    if isWord "is" is_ then
      if isWord "null" w then some (.isNull e false, r)
      else if isWord "not" w then
        match r with
        | .word w :: r => if isWord "null" w then some (.isNull e true, r) else none
        | _ => none
      else none
    else none
  | _ => none

mutual

/-- Read a factor. -/
def factor : Nat → List Token → Parsed Condition
  | 0, _ => none
  | n + 1, .word w :: ts =>
    if isWord "not" w then (factor n ts).map fun p => (.not p.1, p.2)
    else test n (.word w :: ts)
  | n + 1, .opening :: ts =>
    match condition n ts with
    | some (c, .closing :: r) => some (c, r)
    -- the parenthesis may belong to the expression of a test
    | _ => test n (.opening :: ts)
  | n + 1, ts => test n ts

/-- Read a chain of factors: the first one and the others. -/
def factors : Nat → List Token → Parsed (Condition × List Condition)
  | 0, _ => none
  | n + 1, ts =>
    match factor n ts with
    | some (c, .word w :: r) =>
      if isWord "and" w then (factors n r).map fun p => ((c, p.1.1 :: p.1.2), p.2)
      else some ((c, []), .word w :: r)
    | some (c, r) => some ((c, []), r)
    | none => none

/-- Read a chain of conjunctions: the first one and the others. -/
def conjunctions : Nat → List Token → Parsed (Condition × List Condition)
  | 0, _ => none
  | n + 1, ts =>
    match factors n ts with
    | some ((c, cs), .word w :: r) =>
      if isWord "or" w then
        (conjunctions n r).map fun p => ((cs.foldl .and c, p.1.1 :: p.1.2), p.2)
      else some ((cs.foldl .and c, []), .word w :: r)
    | some ((c, cs), r) => some ((cs.foldl .and c, []), r)
    | none => none

/-- Read a condition. -/
def condition : Nat → List Token → Parsed Condition
  | 0, _ => none
  | n + 1, ts => (conjunctions n ts).map fun p => (p.1.2.foldl .or p.1.1, p.2)

end

/-! ## §3. Statements. -/

/-- Read a name. -/
def name : List Token → Parsed String
  | .word w :: ts => if isKeyword w then none else some (w, ts)
  | .quotedName w :: ts => some (w, ts)
  | _ => none

/-- Read an entry of a select list. -/
def item (n : Nat) (ts : List Token) : Parsed Item :=
  match expr n ts with
  | some (e, .word w :: r) =>
    if isWord "as" w then (name r).map fun p => (⟨e, some p.1⟩, p.2)
    else some (⟨e, none⟩, .word w :: r)
  | some (e, r) => some (⟨e, none⟩, r)
  | none => none

/-- Read the entries of a select list. -/
def items : Nat → List Token → Parsed (List Item)
  | 0, _ => none
  | n + 1, ts =>
    match item n ts with
    | some (i, .comma :: r) => (items n r).map fun p => (i :: p.1, p.2)
    | some (i, r) => some ([i], r)
    | none => none

/-- Read an optional `where` and its condition. -/
def whereClause (n : Nat) (ts : List Token) : Parsed (Option Condition) :=
  match ts with
  | .word w :: r =>
    if isWord "where" w then (condition n r).map fun p => (some p.1, p.2) else some (none, ts)
  | _ => some (none, ts)

/-- Drop an optional semicolon. -/
def dropSemicolon : List Token → List Token
  | .semicolon :: ts => ts
  | ts => ts

/-- Read what follows the select list. -/
def sourceAndFilter (n : Nat) (is : List Item) : List Token → Parsed Statement
  | .word w :: ts =>
    if isWord "from" w then
      (name ts).bind fun p => (whereClause n p.2).map fun q =>
        (⟨is, p.1, q.1⟩, dropSemicolon q.2)
    else none
  | _ => none

/-- Read a statement. -/
def statement (n : Nat) : List Token → Parsed Statement
  | .word w :: ts =>
    if isWord "select" w then (items n ts).bind fun p => sourceAndFilter n p.1 p.2 else none
  | _ => none

/-! ## §4. Whole texts. -/

/-- A number of steps that suffices for the tokens. -/
def stepBound (ts : List Token) : Nat := 8 * ts.length + 8

/-- The part that the whole list of tokens makes. -/
def wholly {α : Type} : Parsed α → Option α
  | some (a, []) => some a
  | _ => none

/-- The expression that a text is. -/
def Expr.ofText? (cs : List Char) : Option Expr :=
  (tokens? cs).bind fun ts => wholly (expr (stepBound ts) ts)

/-- The statement that a text is. -/
def Statement.ofText? (cs : List Char) : Option Statement :=
  (tokens? cs).bind fun ts => wholly (statement (stepBound ts) ts)

end Recordwise.Query
