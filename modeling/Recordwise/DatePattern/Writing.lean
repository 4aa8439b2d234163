/-
  Recordwise.DatePattern.Writing
  ──────────────────────────────
  **Writing a local time by a pattern.**

  A year is written with four places at least, a minus sign counting as one;
  the other fields with two; literal text as it is.  Main statement:

      format_append — the tokens of a pattern are written one by one
-/
import Recordwise.Calendar.LocalTime
import Recordwise.DatePattern.Basic

namespace Recordwise.DatePattern

open Calendar

/-- The text of one token. -/
def Token.format (t : LocalTime) : Token → List Char
  | .year => paddedInt 4 t.year
  | .month => padded 2 t.month
  | .day => padded 2 t.day
  | .hour => padded 2 t.hour
  | .minute => padded 2 t.minute
  | .second => padded 2 t.second
  | .literal cs => cs

/-- The text of tokens. -/
def formatTokens (ts : List Token) (t : LocalTime) : List Char :=
  ts.flatMap (Token.format t)

/-- Write a local time. -/
def format (p : DatePattern) (t : LocalTime) : String :=
  String.ofList (formatTokens p.tokens t)

theorem format_append (ts us : List Token) (t : LocalTime) :
    formatTokens (ts ++ us) t = formatTokens ts t ++ formatTokens us t := by
  simp [formatTokens]

end Recordwise.DatePattern
