/-
  Recordwise.Query.Diagnosis
  ──────────────────────────
  **Why a text is no statement.**

  Two common mistakes are named: a quoted text that is never closed, with
  the column of its quote, and parentheses that do not balance, with the
  number of those left over.  Any other text is a syntax error.  Main
  statements:

      unterminatedLiteral_of_unquoted — a text without quotes has none open
      parenImbalance_of_plain         — a text without quotes and parentheses
                                        balances
-/
import Recordwise.Failure
import Recordwise.Query.Parser

namespace Recordwise.Query

/-! ## §1. Scanning for mistakes. -/

/-- The column of the quote that is still open at the end of a text, where
`column` is that of the next character and `open?` the quote that is open
before it. -/
def openQuote (column : Nat) (open? : Option (Char × Nat)) : List Char → Option Nat
  | [] => open?.map (·.2)
  | c :: cs =>
    match open? with
    | none => openQuote (column + 1) (if c = '\'' ∨ c = '"' then some (c, column) else none) cs
    | some (quote, start) =>
      match cs with
      | [] => if c = quote then none else some start
      | x :: r =>
        if c = '\\' then openQuote (column + 2) (some (quote, start)) r
        else if c = quote then
          if c = '\'' ∧ x = '\'' then openQuote (column + 2) (some (quote, start)) r
          else openQuote (column + 1) none (x :: r)
        else openQuote (column + 1) (some (quote, start)) (x :: r)

/-- The column, from 1, of a quote that is never closed. -/
def unterminatedLiteral (cs : List Char) : Option Nat := openQuote 1 none cs

/-- The number of parentheses left open at the end of a text, or -1 as soon as
one closes that was never opened; those inside quotes do not count. -/
def openParens (depth : Int) (quote? : Option Char) : List Char → Int
  | [] => depth
  | c :: cs =>
    match quote? with
    | some quote =>
      match cs with
      | [] => depth
      | x :: r =>
        if c = '\\' then openParens depth (some quote) r
        else openParens depth (if c = quote then none else some quote) (x :: r)
    | none =>
      if c = '\'' ∨ c = '"' then openParens depth (some c) cs
      else if c = '(' then openParens (depth + 1) none cs
      else if c = ')' then
        if depth - 1 < 0 then depth - 1 else openParens (depth - 1) none cs
      else openParens depth none cs

/-- The parentheses left over, opening ones counted positively; `none` when
they balance. -/
def parenImbalance (cs : List Char) : Option Int :=
  let d := openParens 0 none cs
  if d = 0 then none else some d

theorem openQuote_of_unquoted {cs : List Char} (h : ∀ c ∈ cs, c ≠ '\'' ∧ c ≠ '"')
    (column : Nat) : openQuote column none cs = none := by
  induction cs generalizing column with
  | nil => rfl
  | cons c cs ih =>
    have hc := h c List.mem_cons_self
    rw [openQuote.eq_def]
    simp [hc.1, hc.2, ih fun d hd => h d (List.mem_cons_of_mem c hd)]

/-- A text without quotes has none open. -/
theorem unterminatedLiteral_of_unquoted {cs : List Char} (h : ∀ c ∈ cs, c ≠ '\'' ∧ c ≠ '"') :
    unterminatedLiteral cs = none :=
  openQuote_of_unquoted h 1

theorem openParens_of_plain {cs : List Char}
    (h : ∀ c ∈ cs, (c ≠ '\'' ∧ c ≠ '"') ∧ c ≠ '(' ∧ c ≠ ')') (depth : Int) :
    openParens depth none cs = depth := by
  induction cs generalizing depth with
  | nil => rfl
  | cons c cs ih =>
    have hc := h c List.mem_cons_self
    rw [openParens.eq_def]
    simp [hc.1.1, hc.1.2, hc.2.1, hc.2.2, ih fun d hd => h d (List.mem_cons_of_mem c hd)]

/-- A text without quotes and parentheses balances. -/
theorem parenImbalance_of_plain {cs : List Char}
    (h : ∀ c ∈ cs, (c ≠ '\'' ∧ c ≠ '"') ∧ c ≠ '(' ∧ c ≠ ')') : parenImbalance cs = none := by
  simp [parenImbalance, openParens_of_plain h]

/-! ## §2. Reports. -/

/-- How a text that is no statement is reported. -/
def syntaxMessage (cs : List Char) : String :=
  match unterminatedLiteral cs with
  | some column => "unterminated string literal starting at column " ++ Nat.repr column
  | none =>
    match parenImbalance cs with
    | some d =>
      "unbalanced parentheses (" ++ Nat.repr d.natAbs ++ " unmatched '"
        ++ (if d > 0 then "(" else ")") ++ "')"
    | none => "syntax error"

/-- The expression that a text is, or why it is none. -/
def parseExpr (text : String) : Except Failure Expr :=
  match Expr.ofText? text.toList with
  | some e => .ok e
  | none => .error (.parse (syntaxMessage text.toList))

/-- The statement that a text is, or why it is none. -/
def parseStatement (text : String) : Except Failure Statement :=
  match Statement.ofText? text.toList with
  | some s => .ok s
  | none => .error (.parse (syntaxMessage text.toList))

end Recordwise.Query
