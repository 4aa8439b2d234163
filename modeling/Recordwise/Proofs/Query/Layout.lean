/-
  Recordwise.Proofs.Query.Layout
  ──────────────────────────────
  **The layouts of a statement's text.**

  A statement can be written in many ways that mean the same: keywords, truth
  values, null and the names of functions in any letter case, any blanks
  around the tokens, a semicolon at the end.  `lexemes` lists what a statement
  writes, `Layout` says which texts write a list of lexemes, and `isPrintable`
  says for which statements such a text can be read back.  Main statements:

      Expr.induction_args — induction over expressions, by the arguments of calls
      mem_separated       — what stands in a list of parts
-/
import Mathlib.Data.List.Forall2
import Recordwise.Query.Parser
import Recordwise.Query.Printer

namespace Recordwise.Query

/-! ## §1. Tokens as text. -/

/-- A token as it is written. -/
def Token.text : Token → String
  | .word w => w
  | .quotedName name => "\x60" ++ name ++ "\x60"
  | .literal v => renderLiteral v
  | .parameter name => "$ctx." ++ name
  | .comparison op => op.symbol
  | .opening => "("
  | .closing => ")"
  | .comma => ","
  | .semicolon => ";"

/-- A part of a statement's text, with the freedom there is in writing it. -/
inductive Lexeme where
  /-- A token that is written in one way. -/
  | exact (t : Token)
  /-- A word, given in lower case, that is written in any letter case. -/
  | anyCase (w : String)
  deriving DecidableEq

/-- Whether a token may stand for a lexeme. -/
def Lexeme.Allows : Lexeme → Token → Prop
  | exact t, u => u = t
  | anyCase w, u => ∃ spelling, u = .word spelling ∧ Text.asciiLowered spelling = w

/-! ## §2. What a statement writes. -/

/-- The lexemes of a list of parts, with commas between the parts. -/
def separated : List (List Lexeme) → List Lexeme
  | [] => []
  | [part] => part
  | part :: parts => part ++ .exact .comma :: separated parts

/-- The lexeme of a value that is written out. -/
def literalLexeme : Value → Lexeme
  | .null => .anyCase "null"
  | .boolean true => .anyCase "true"
  | .boolean false => .anyCase "false"
  | v => .exact (.literal v)

mutual

/-- The lexemes of an expression. -/
def Expr.lexemes : Expr → List Lexeme
  | .literal v => [literalLexeme v]
  | .column name => [.exact (.word name)]
  | .parameter name => [.exact (.parameter name)]
  | .call function args =>
    .anyCase function :: .exact .opening :: (separated (Expr.lexemesOf args) ++ [.exact .closing])

/-- The lexemes of each of the arguments. -/
def Expr.lexemesOf : List Expr → List (List Lexeme)
  | [] => []
  | e :: es => e.lexemes :: Expr.lexemesOf es

end

theorem Expr.lexemesOf_eq_map (es : List Expr) : Expr.lexemesOf es = es.map Expr.lexemes := by
  induction es with
  | nil => rfl
  | cons e es ih =>
      show e.lexemes :: Expr.lexemesOf es = _
      rw [ih]
      rfl

/-- The lexemes of a condition. -/
def Condition.lexemes : Condition → List Lexeme
  | .compare l op r => l.lexemes ++ .exact (.comparison op) :: r.lexemes
  | .isNull e true => e.lexemes ++ [.anyCase "is", .anyCase "not", .anyCase "null"]
  | .isNull e false => e.lexemes ++ [.anyCase "is", .anyCase "null"]
  | .and l r =>
    .exact .opening :: (l.lexemes ++ .anyCase "and" :: (r.lexemes ++ [.exact .closing]))
  | .or l r =>
    .exact .opening :: (l.lexemes ++ .anyCase "or" :: (r.lexemes ++ [.exact .closing]))
  | .not c => .anyCase "not" :: .exact .opening :: (c.lexemes ++ [.exact .closing])

/-- The lexemes of an entry of a select list. -/
def Item.lexemes (item : Item) : List Lexeme :=
  match item.alias? with
  | some name => item.expr.lexemes ++ [.anyCase "as", .exact (.word name)]
  | none => item.expr.lexemes

/-- The lexemes of an optional condition. -/
def filterLexemes : Option Condition → List Lexeme
  | some c => .anyCase "where" :: c.lexemes
  | none => []

/-- The lexemes of a statement, without a semicolon. -/
def Statement.lexemes (s : Statement) : List Lexeme :=
  .anyCase "select" :: (separated (s.items.map Item.lexemes)
    ++ .anyCase "from" :: .exact (.word s.source) :: filterLexemes s.condition?)

/-! ## §3. Layouts. -/

/-- Whether the last character of a text and the first one of the text behind
it would make one word. -/
def joins (cs ds : List Char) : Bool :=
  match cs.getLast?, ds.head? with
  | some c, some d => isWordPart c && isWordPart d
  | _, _ => false

/-- **The texts that write a list of lexemes**: each is spelled by a token it
allows, with separators in front of each and at the end.  There may be none
where no word runs into another. -/
inductive Layout : List Lexeme → List Char → Prop
  | nil {gap : List Char} (blank : gap.all isSeparator = true) : Layout [] gap
  | cons {gap : List Char} {l : Lexeme} {t : Token} {ls : List Lexeme} {cs : List Char}
      (blank : gap.all isSeparator = true) (allowed : l.Allows t)
      (apart : joins t.text.toList cs = false) (rest : Layout ls cs) :
      Layout (l :: ls) (gap ++ (t.text.toList ++ cs))

/-- Whether a text is a layout of a statement, with or without a semicolon at
the end. -/
def Statement.IsLayout (s : Statement) (text : String) : Prop :=
  Layout s.lexemes text.toList ∨ Layout (s.lexemes ++ [.exact .semicolon]) text.toList

/-! ## §4. Statements that can be read back. -/

/-- Whether a name needs no quotes: it is a word and no keyword. -/
def isIdentifier (w : String) : Bool :=
  match w.toList with
  | c :: cs => isWordStart c && cs.all isWordPart && !isKeyword w
  | [] => false

/-- Whether a name is a function's: an identifier in lower case. -/
def isFunctionName (f : String) : Bool := isIdentifier f && Text.asciiLowered f == f

/-- Whether a value has a literal of its own: there is none for a float, and
a backslash does not stand for itself in a text. -/
def isPlainLiteral : Value → Bool
  | .float _ => false
  | .text s => s.toList.all (· != '\\')
  | _ => true

mutual

/-- Whether the names and literals of an expression can be read back. -/
def Expr.isPrintable : Expr → Bool
  | .literal v => isPlainLiteral v
  | .column name => isIdentifier name
  | .parameter name => isIdentifier name
  | .call function args => isFunctionName function && Expr.arePrintable args

/-- Whether this holds of all arguments. -/
def Expr.arePrintable : List Expr → Bool
  | [] => true
  | e :: es => e.isPrintable && Expr.arePrintable es

end

theorem Expr.arePrintable_eq_all (es : List Expr) :
    Expr.arePrintable es = es.all Expr.isPrintable := by
  induction es with
  | nil => rfl
  | cons e es ih =>
      show (e.isPrintable && Expr.arePrintable es) = _
      rw [ih]
      rfl

/-- Whether the expressions of a condition can be read back. -/
def Condition.isPrintable (c : Condition) : Bool := c.expressions.all Expr.isPrintable

/-- Whether an entry of a select list can be read back. -/
def Item.isPrintable (item : Item) : Bool := item.expr.isPrintable && item.alias?.all isIdentifier

/-- Whether a statement can be read back; it selects something. -/
def Statement.isPrintable (s : Statement) : Bool :=
  !s.items.isEmpty && s.items.all Item.isPrintable && isIdentifier s.source
    && s.condition?.all Condition.isPrintable

/-! ## §5. Induction. -/

/-- **Induction over expressions**: a property holds of every expression when
it passes from the arguments of a call to the call. -/
theorem Expr.induction_args {motive : Expr → Prop} (literal : ∀ v, motive (.literal v))
    (column : ∀ name, motive (.column name)) (parameter : ∀ name, motive (.parameter name))
    (call : ∀ function args, (∀ a ∈ args, motive a) → motive (.call function args)) (e : Expr) :
    motive e := by
  refine @Expr.rec motive (fun es => ∀ a ∈ es, motive a) literal column parameter call ?_ ?_ e
  · intro a ha
    exact absurd ha List.not_mem_nil
  · intro first others hfirst hothers a ha
    rcases List.mem_cons.1 ha with rfl | ha
    · exact hfirst
    · exact hothers a ha

/-- What stands in a list of parts is a comma or stands in a part. -/
theorem mem_separated {parts : List (List Lexeme)} {l : Lexeme} (h : l ∈ separated parts) :
    l = .exact .comma ∨ ∃ part ∈ parts, l ∈ part := by
  induction parts with
  | nil => exact absurd h List.not_mem_nil
  | cons part parts ih =>
      cases parts with
      | nil => exact .inr ⟨part, List.mem_cons_self, h⟩
      | cons next parts =>
          rcases List.mem_append.1 h with here | behind
          · exact .inr ⟨part, List.mem_cons_self, here⟩
          · rcases List.mem_cons.1 behind with comma | later
            · exact .inl comma
            · rcases ih later with comma | ⟨q, hq, hl⟩
              · exact .inl comma
              · exact .inr ⟨q, List.mem_cons_of_mem part hq, hl⟩

end Recordwise.Query
