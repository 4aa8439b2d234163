/-
  Recordwise.DatePattern.Basic
  ────────────────────────────
  **Patterns of dates and times.**

  A pattern such as `yyyy/MM/dd HH:mm:ss` is a sequence of tokens: fields of
  a local time, written by their letters, and literal text between them.
  Literal text is any character but a letter, or anything between single
  quotes, where a doubled quote stands for a quote.  Pieces of literal text
  that meet are one token.  Any other letter is refused, so that a misspelt
  field does not pass as text.  Main statement:

      consLiteral_consLiteral — pieces of text join in order
-/

namespace Recordwise

/-! ## §1. Tokens. -/

/-- One element of a pattern. -/
inductive DatePattern.Token where
  /-- The year in four digits, `yyyy`. -/
  | year
  /-- The month in two digits, `MM`. -/
  | month
  /-- The day of the month in two digits, `dd`. -/
  | day
  /-- The hour in two digits, `HH`. -/
  | hour
  /-- The minute in two digits, `mm`. -/
  | minute
  /-- The second in two digits, `ss`. -/
  | second
  /-- Text that stands for itself. -/
  | literal (cs : List Char)
  deriving Repr, DecidableEq

/-- A pattern with the text it was written as. -/
structure DatePattern where
  /-- The pattern as written. -/
  source : String
  /-- The tokens, in order. -/
  tokens : List DatePattern.Token
  deriving Repr, DecidableEq

namespace DatePattern

/-- Whether a token is literal text. -/
def Token.isLiteral : Token → Bool
  | .literal _ => true
  | _ => false

theorem Token.literal_or_field (tok : Token) :
    (∃ cs, tok = .literal cs) ∨ tok.isLiteral = false := by
  cases tok with
  | literal cs => exact .inl ⟨cs, rfl⟩
  | _ => exact .inr rfl

/-- Put literal text in front of tokens, joined with text that they begin
with. -/
def consLiteral (cs : List Char) : List Token → List Token
  | .literal ds :: ts => .literal (cs ++ ds) :: ts
  | ts => .literal cs :: ts

theorem consLiteral_consLiteral (cs ds : List Char) (ts : List Token) :
    consLiteral cs (consLiteral ds ts) = consLiteral (cs ++ ds) ts := by
  cases ts with
  | nil => rfl
  | cons t ts => cases t <;> simp [consLiteral]

/-! ## §2. Reading a pattern. -/

/-- Why a pattern is refused. -/
inductive CompileFault where
  /-- There is nothing in it. -/
  | empty
  /-- A quoted text is not closed. -/
  | unterminatedQuote
  /-- A letter outside quotes begins no field. -/
  | unsupportedLetter (c : Char)
  deriving Repr, DecidableEq

/-- How the refusal of a pattern is reported. -/
def CompileFault.message (source : String) : CompileFault → String
  | .empty => "empty pattern"
  | .unterminatedQuote => "unterminated quote in pattern '" ++ source ++ "'"
  | .unsupportedLetter c =>
    "unsupported pattern letter '" ++ c.toString ++ "' in '" ++ source ++ "'"

/-- Whether a character is an ASCII letter. -/
def isLetter (c : Char) : Bool := ('a' ≤ c && c ≤ 'z') || ('A' ≤ c && c ≤ 'Z')

/-- Read tokens, inside a quoted text or outside.  The closing quote leaves an
empty piece of text behind, so that a quoted text is a token even when
nothing stands in it. -/
def scan : Bool → List Char → Except CompileFault (List Token)
  | true, [] => .error .unterminatedQuote
  | true, '\'' :: '\'' :: r => (scan true r).map (consLiteral ['\''])
  | true, '\'' :: r => (scan false r).map (consLiteral [])
  | true, c :: r => (scan true r).map (consLiteral [c])
  | false, [] => .ok []
  | false, '\'' :: r => scan true r
  | false, 'y' :: 'y' :: 'y' :: 'y' :: r => (scan false r).map (.year :: ·)
  | false, 'M' :: 'M' :: r => (scan false r).map (.month :: ·)
  | false, 'd' :: 'd' :: r => (scan false r).map (.day :: ·)
  | false, 'H' :: 'H' :: r => (scan false r).map (.hour :: ·)
  | false, 'm' :: 'm' :: r => (scan false r).map (.minute :: ·)
  | false, 's' :: 's' :: r => (scan false r).map (.second :: ·)
  | false, c :: r =>
    if isLetter c then .error (.unsupportedLetter c)
    else (scan false r).map (consLiteral [c])

/-- The pattern that a text describes. -/
def compile (source : String) : Except CompileFault DatePattern :=
  if source = "" then .error .empty
  else (scan false source.toList).map fun tokens => ⟨source, tokens⟩

theorem source_of_compile {s : String} {p : DatePattern} (h : compile s = .ok p) :
    p.source = s := by
  unfold compile at h
  split at h
  · cases h
  · cases hs : scan false s.toList with
    | error e => simp [hs, Except.map] at h
    | ok ts => simp [hs, Except.map] at h; rw [← h]

end DatePattern

end Recordwise
