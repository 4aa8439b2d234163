/-
  Recordwise.Document.Toml.Scalar
  ───────────────────────────────
  **Strings, numbers and dates in TOML.**

  A string stands between double quotes, with escapes, or between single
  quotes, without; three quotes open a string that may span lines.  A line
  break in a string is a line feed, whichever way it is written.  Numbers and
  dates are checked against their grammar and their range.  Main statement:

      literal?_quote — a single-quoted string ends at its quote
-/
import Recordwise.Calendar.Date
import Recordwise.Document.Json

namespace Recordwise.Document.Toml

open Json (hex? hexDigit? isHigh isLow)

/-! ## §1. Characters. -/

/-- Whether a character separates the parts of a line. -/
def isSpace (c : Char) : Bool := c == ' ' || c == '\t'

/-- Drop the spaces in front. -/
def skipSpace (cs : List Char) : List Char := cs.dropWhile isSpace

/-- Whether a character may stand in a comment or a string. -/
def isPlain (c : Char) : Bool := c == '\t' || (0x20 ≤ c.toNat && c.toNat != 0x7F)

/-- The rest behind a line break in front. -/
def newline? : List Char → Option (List Char)
  | '\n' :: r => some r
  | '\r' :: '\n' :: r => some r
  | _ => none

/-- Drop the spaces and line breaks in front. -/
def skipLines : List Char → List Char
  | ' ' :: r => skipLines r
  | '\t' :: r => skipLines r
  | '\n' :: r => skipLines r
  | '\r' :: '\n' :: r => skipLines r
  | cs => cs

/-! ## §2. Strings. -/

/-- The character of a code point. -/
def codePoint? (cs : List Char) : Option Char := do
  let n ← hex? cs
  if n ≤ 0x10FFFF ∧ isHigh n = false ∧ isLow n = false then some (Char.ofNat n) else none

/-- The character that a backslash stands for with what follows it, and the
rest behind both. -/
def escaped? : List Char → Option (Char × List Char)
  | 'b' :: r => some ('\x08', r)
  | 't' :: r => some ('\t', r)
  | 'n' :: r => some ('\n', r)
  | 'f' :: r => some ('\x0c', r)
  | 'r' :: r => some ('\r', r)
  | '"' :: r => some ('"', r)
  | '\\' :: r => some ('\\', r)
  | 'u' :: r =>
    if 4 ≤ r.length then (codePoint? (r.take 4)).map (·, r.drop 4) else none
  | 'U' :: r =>
    if 8 ≤ r.length then (codePoint? (r.take 8)).map (·, r.drop 8) else none
  | _ => none

/-- A double-quoted string up to its quote, and the rest behind it. -/
def basic? : (fuel : Nat) → List Char → Option (List Char × List Char)
  | fuel + 1, c :: r =>
    if c = '"' then some ([], r)
    else if c = '\\' then do
      let (x, r) ← escaped? r
      let (cs, rest) ← basic? fuel r
      return (x :: cs, rest)
    else if isPlain c then (basic? fuel r).map fun p => (c :: p.1, p.2)
    else none
  | _, _ => none

/-- A single-quoted string up to its quote, and the rest behind it. -/
def literal? : List Char → Option (List Char × List Char)
  | [] => none
  | c :: r =>
    if c = '\'' then some ([], r)
    else if isPlain c then (literal? r).map fun p => (c :: p.1, p.2)
    else none

theorem literal?_quote (r : List Char) : literal? ('\'' :: r) = some ([], r) := by
  simp [literal?]

/-- A string between three quotes up to the last of them, and the rest behind
it.  One or two quotes right before the three belong to the string; between
double quotes there are escapes, and a backslash at the end of a line takes
the blanks and line breaks that follow. -/
def multiline? (quote : Char) : (fuel : Nat) → List Char → Option (List Char × List Char)
  | fuel + 1, c :: r =>
    if c = quote then
      -- a run of three to five quotes ends the string
      match r.takeWhile (· == quote) with
      | [] => (multiline? quote fuel r).map fun p => (c :: p.1, p.2)
      | [_] =>
        (multiline? quote fuel (r.drop 1)).map fun p => (c :: c :: p.1, p.2)
      | [_, _] => some ([], r.drop 2)
      | [_, _, _] => some ([c], r.drop 3)
      | _ => some ([c, c], r.drop 4)
    else if c = '\\' ∧ quote = '"' then
      match newline? (skipSpace r) with
      | some t => multiline? quote fuel (skipLines t)
      | none => do
        let (x, r) ← escaped? r
        let (cs, rest) ← multiline? quote fuel r
        return (x :: cs, rest)
    else
      match newline? (c :: r) with
      | some t => (multiline? quote fuel t).map fun p => ('\n' :: p.1, p.2)
      | none =>
        if isPlain c then (multiline? quote fuel r).map fun p => (c :: p.1, p.2) else none
  | _, _ => none

/-- Drop the line break in front, if there is one. -/
def dropNewline (cs : List Char) : List Char := (newline? cs).getD cs

/-- The string in front, and the rest behind it. -/
def string? : List Char → Option (List Char × List Char)
  | '"' :: '"' :: '"' :: r => multiline? '"' (r.length + 1) (dropNewline r)
  | '\'' :: '\'' :: '\'' :: r => multiline? '\'' (r.length + 1) (dropNewline r)
  | '"' :: r => basic? (r.length + 1) r
  | '\'' :: r => literal? r
  | _ => none

/-! ## §3. Numbers. -/

/-- Remove the underscores between digits; `none` if an underscore stands
elsewhere, or if there is no digit. -/
def plainDigits? (digit : Char → Bool) : List Char → Option (List Char)
  | [] => none
  | [c] => if digit c then some [c] else none
  | c :: '_' :: r => if digit c then (plainDigits? digit r).map (c :: ·) else none
  | c :: r => if digit c then (plainDigits? digit r).map (c :: ·) else none

/-- The digits of a whole part: a zero, or digits that begin with no zero. -/
def wholeDigits? (cs : List Char) : Option (List Char) := do
  let ds ← plainDigits? Decimal.isDigit cs
  if ds.head? = some '0' ∧ 1 < ds.length then none else some ds

/-- Whether digits in a base, a power of two, are a number of 63 bits. -/
def isBased (base : Nat) (cs : List Char) : Bool :=
  let digit c := match hexDigit? c with
    | some d => decide (d < base)
    | none => false
  match plainDigits? digit cs with
  | some ds => (ds.foldl (fun n c => n * base + (hexDigit? c).getD 0) 0) < Nat.pow 2 63
  | none => false

/-- Whether a text is an integer within 64 bits. -/
def isInteger : List Char → Bool
  | '0' :: 'x' :: cs => isBased 16 cs
  | '0' :: 'o' :: cs => isBased 8 cs
  | '0' :: 'b' :: cs => isBased 2 cs
  | cs =>
    let (negative, body) := Decimal.splitSign cs
    match wholeDigits? body with
    | some ds => Decimal.fitsInt64
        (if negative then -(Decimal.natOfDigits ds : Int) else Decimal.natOfDigits ds)
    | none => false

/-- The digits of an exponent, with its letter and its sign. -/
def exponent? : List Char → Option (List Char)
  | [] => some []
  | _ :: cs => do
    let (negative, ds) := Decimal.splitSign cs
    return (if negative then ['e', '-'] else ['e']) ++ (← plainDigits? Decimal.isDigit ds)

/-- Whether a text is a float; above the greatest one it is out of range, below
the least one it is an infinity. -/
def isFloat (cs : List Char) : Bool :=
  let (negative, body) := Decimal.splitSign cs
  let isMark c := c == '.' || c == 'e' || c == 'E'
  let isLetter c := c == 'e' || c == 'E'
  if body = ['i', 'n', 'f'] ∨ body = ['n', 'a', 'n'] then true
  else if !body.any isMark then false
  else
    let checked : Option Float := do
      let whole ← wholeDigits? (body.takeWhile fun c => !isMark c)
      let (fraction, r) ← match body.dropWhile fun c => !isMark c with
        | '.' :: r => do
          let ds ← plainDigits? Decimal.isDigit (r.takeWhile fun c => !isLetter c)
          some ('.' :: ds, r.dropWhile fun c => !isLetter c)
        | r => some ([], r)
      let exponent ← exponent? r
      Decimal.float? (whole ++ fraction ++ exponent)
    match checked with
    | some x => negative || !x.isInf
    | none => false

/-! ## §4. Dates and times. -/

/-- The number that two digits are. -/
def twoDigits? : List Char → Option Nat
  | [a, b] => if Decimal.isDigit a && Decimal.isDigit b then
      some (Decimal.natOfDigits [a, b]) else none
  | _ => none

/-- Whether a text is a date. -/
def isDate (cs : List Char) : Bool :=
  match cs with
  | [y₁, y₂, y₃, y₄, '-', m₁, m₂, '-', d₁, d₂] =>
    match twoDigits? [y₁, y₂], twoDigits? [y₃, y₄], twoDigits? [m₁, m₂], twoDigits? [d₁, d₂] with
    | some _, some _, some m, some d =>
      let y := Decimal.natOfDigits [y₁, y₂, y₃, y₄]
      1 ≤ m && m ≤ 12 && 1 ≤ d && d ≤ Calendar.daysInMonth y m
    | _, _, _, _ => false
  | _ => false

/-- Whether a text is hours and minutes. -/
def isHourMinute (cs : List Char) : Bool :=
  match cs with
  | [h₁, h₂, ':', m₁, m₂] =>
    match twoDigits? [h₁, h₂], twoDigits? [m₁, m₂] with
    | some h, some m => h < 24 && m < 60
    | _, _ => false
  | _ => false

/-- Whether a text is a time of day, to the second or finer. -/
def isTime (cs : List Char) : Bool :=
  match cs.drop 5 with
  | ':' :: s₁ :: s₂ :: fraction =>
    isHourMinute (cs.take 5) && (twoDigits? [s₁, s₂]).any (· ≤ 60)
      && match fraction with
        | [] => true
        | '.' :: ds => ds ≠ [] && ds.all Decimal.isDigit
        | _ => false
  | _ => false

/-- Whether a text is a time of day with the offset of a zone, or without. -/
def isOffsetTime (cs : List Char) : Bool :=
  let isSign c := c == '+' || c == '-' || c == 'Z' || c == 'z'
  isTime (cs.takeWhile fun c => !isSign c)
    && match cs.dropWhile fun c => !isSign c with
      | [] => true
      | [c] => c == 'Z' || c == 'z'
      | c :: r => (c == '+' || c == '-') && isHourMinute r

/-- Whether a text is a date, a time of day, or both. -/
def isMoment (cs : List Char) : Bool :=
  isTime cs || isDate (cs.take 10)
    && match cs.drop 10 with
      | [] => true
      | c :: r => (c == 'T' || c == 't' || c == ' ') && isOffsetTime r

/-- Whether a number, a date or a time can go on with a character. -/
def isScalarPart (c : Char) : Bool :=
  c.isAlphanum || c == '+' || c == '-' || c == '_' || c == '.' || c == ':'

/-- The number, date or time in front, and the rest behind it.  A single space
may stand between a date and a time. -/
def number? (cs : List Char) : Option (Document × List Char) :=
  let word := cs.takeWhile isScalarPart
  let rest := cs.dropWhile isScalarPart
  let time := (rest.drop 1).takeWhile isScalarPart
  if isDate word && rest.head? == some ' ' && isOffsetTime time then
    some (.moment, (rest.drop 1).dropWhile isScalarPart)
  else if isMoment word then some (.moment, rest)
  else if isInteger word || isFloat word then some (.number, rest)
  else none

end Recordwise.Document.Toml
