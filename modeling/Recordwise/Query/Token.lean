/-
  Recordwise.Query.Token
  ──────────────────────
  **The tokens of a statement's text.**

  Blanks separate tokens and mean nothing else.  A word is a run of ASCII
  letters, digits and underscores that begins with no digit; whether it is a
  keyword is decided without regard to letter case.  A quoted text ends at
  its quote: between single quotes a doubled quote stands for a quote, and
  between either kind a backslash takes the next character, where `n`, `t`,
  `r` and `0` name control characters.  Main statements:

      scanQuoted_double     — a doubled single quote is a quote
      tokens?_of_separators — a text of separators alone has no tokens
-/
import Recordwise.Query.Syntax

namespace Recordwise.Query

/-! ## §1. Tokens. -/

/-- A token. -/
inductive Token where
  /-- A keyword or a plain name. -/
  | word (w : String)
  /-- A name between backticks. -/
  | quotedName (name : String)
  /-- A number or a quoted text. -/
  | literal (v : Value)
  /-- A parameter of the call, `$ctx.name`. -/
  | parameter (name : String)
  /-- A comparison sign. -/
  | comparison (op : Comparison)
  /-- The sign `(`. -/
  | opening
  /-- The sign `)`. -/
  | closing
  /-- The sign `,`. -/
  | comma
  /-- The sign `;`. -/
  | semicolon
  deriving DecidableEq

/-- The keywords, in lower case. -/
def keywords : List String :=
  ["select", "from", "where", "as", "and", "or", "not", "is", "null", "true", "false"]

/-- Whether a word is a keyword in any letter case. -/
def isKeyword (w : String) : Bool := keywords.contains (Text.asciiLowered w)

/-- Whether a word is the keyword `k`, given in lower case. -/
def isWord (k w : String) : Bool := Text.asciiLowered w == k

/-! ## §2. Characters. -/

/-- Whether a character separates tokens. -/
def isSeparator (c : Char) : Bool := c == ' ' || c == '\t' || c == '\r' || c == '\n'

/-- Whether a word can begin with a character. -/
def isWordStart (c : Char) : Bool :=
  ('a' ≤ c && c ≤ 'z') || ('A' ≤ c && c ≤ 'Z') || c == '_'

/-- Whether a word can go on with a character. -/
def isWordPart (c : Char) : Bool := isWordStart c || Decimal.isDigit c

/-! ## §3. Quoted texts. -/

/-- The character that a backslash and `c` stand for. -/
def unescapeChar (c : Char) : Char :=
  if c = 'n' then '\n' else if c = 't' then '\t' else if c = 'r' then '\r'
  else if c = '0' then Char.ofNat 0 else c

/-- The text up to the closing quote, and the rest behind it. -/
def scanQuoted (quote : Char) : List Char → Option (List Char × List Char)
  | [] => none
  | c :: cs =>
    if c = '\\' then
      match cs with
      | [] => none
      | x :: r => (scanQuoted quote r).map fun p => (unescapeChar x :: p.1, p.2)
    else if c = quote then
      match cs with
      | x :: r =>
        if x = '\'' ∧ quote = '\'' then (scanQuoted quote r).map fun p => (c :: p.1, p.2)
        else some ([], x :: r)
      | [] => some ([], [])
    else (scanQuoted quote cs).map fun p => (c :: p.1, p.2)

theorem scanQuoted_double (r : List Char) :
    scanQuoted '\'' ('\'' :: '\'' :: r) = (scanQuoted '\'' r).map fun p => ('\'' :: p.1, p.2) := by
  rw [scanQuoted.eq_def]; simp

/-- The name up to the closing backtick, which is not empty, and the rest
behind it. -/
def scanBacktick (cs : List Char) : Option (List Char × List Char) :=
  match cs.takeWhile (· != '\x60'), cs.dropWhile (· != '\x60') with
  | c :: name, _ :: rest => some (c :: name, rest)
  | _, _ => none

/-! ## §4. Numbers. -/

/-- The digits behind a sign of a number, with that sign in front; nothing
when no digit follows. -/
def scanPart (sign : List Char) (cs : List Char) : List Char × List Char :=
  match cs.takeWhile Decimal.isDigit with
  | [] => ([], sign ++ cs)
  | d :: ds => (sign ++ d :: ds, cs.dropWhile Decimal.isDigit)

/-- The point and the digits of a fraction, if one comes next. -/
def scanFraction : List Char → List Char × List Char
  | '.' :: cs => scanPart ['.'] cs
  | cs => ([], cs)

/-- The letter, sign and digits of an exponent, if one comes next. -/
def scanExponent : List Char → List Char × List Char
  | c :: s :: cs =>
    if c = 'e' ∨ c = 'E' then
      if s = '+' ∨ s = '-' then scanPart [c, s] cs else scanPart [c] (s :: cs)
    else ([], c :: s :: cs)
  | cs => ([], cs)

/-- The value of a number's text: an integer when it has neither fraction nor
exponent and fits 64 bits. -/
def numberValue (whole fraction exponent : List Char) : Value :=
  let text := whole ++ fraction ++ exponent
  let asFloat := Value.float ((Decimal.float? text).getD 0.0)
  if fraction = [] ∧ exponent = [] then
    match Decimal.int64? text with
    | some n => .integer n
    | none => asFloat
  else asFloat

/-- The number whose whole part is given up to its first digit. -/
def scanNumber (sign : List Char) (cs : List Char) : Value × List Char :=
  let whole := sign ++ cs.takeWhile Decimal.isDigit
  let (fraction, r) := scanFraction (cs.dropWhile Decimal.isDigit)
  let (exponent, r) := scanExponent r
  (numberValue whole fraction exponent, r)

/-! ## §5. The next token. -/

/-- The word at the start of a text, and the rest behind it. -/
def scanWord (cs : List Char) : String × List Char :=
  (String.ofList (cs.takeWhile isWordPart), cs.dropWhile isWordPart)

/-- The parameter whose name comes next. -/
def scanParameter (cs : List Char) : Option (Token × List Char) :=
  match cs with
  | c :: _ =>
    let (w, r) := scanWord cs
    if isWordStart c && !isKeyword w then some (.parameter w, r) else none
  | [] => none

/-- The token at the start of a text that begins with no separator, and the
rest behind it. -/
def next? : List Char → Option (Token × List Char)
  | [] => none
  | '(' :: cs => some (.opening, cs)
  | ')' :: cs => some (.closing, cs)
  | ',' :: cs => some (.comma, cs)
  | ';' :: cs => some (.semicolon, cs)
  | '=' :: cs => some (.comparison .equal, cs)
  | '!' :: '=' :: cs => some (.comparison .notEqual, cs)
  | '<' :: '=' :: cs => some (.comparison .lessOrEqual, cs)
  | '<' :: '>' :: cs => some (.comparison .notEqual, cs)
  | '<' :: cs => some (.comparison .less, cs)
  | '>' :: '=' :: cs => some (.comparison .greaterOrEqual, cs)
  | '>' :: cs => some (.comparison .greater, cs)
  | '\'' :: cs => (scanQuoted '\'' cs).map fun p => (.literal (.text (String.ofList p.1)), p.2)
  | '"' :: cs => (scanQuoted '"' cs).map fun p => (.literal (.text (String.ofList p.1)), p.2)
  | '\x60' :: cs => (scanBacktick cs).map fun p => (.quotedName (String.ofList p.1), p.2)
  | '$' :: 'c' :: 't' :: 'x' :: '.' :: cs => scanParameter cs
  | '-' :: d :: cs =>
    if Decimal.isDigit d then
      let (v, r) := scanNumber ['-'] (d :: cs)
      some (.literal v, r)
    else none
  | c :: cs =>
    if Decimal.isDigit c then
      let (v, r) := scanNumber [] (c :: cs)
      some (.literal v, r)
    else if isWordStart c then
      let (w, r) := scanWord (c :: cs)
      some (.word w, r)
    else none

/-- The tokens of a text of at most `fuel` characters. -/
def tokensWithin : Nat → List Char → Option (List Token)
  | fuel, cs =>
    match cs.dropWhile isSeparator, fuel with
    | [], _ => some []
    | _ :: _, 0 => none
    | c :: r, fuel + 1 =>
      match next? (c :: r) with
      | some (t, rest) => (tokensWithin fuel rest).map (t :: ·)
      | none => none

/-- The tokens of a text; `none` when some part of it is no token. -/
def tokens? (cs : List Char) : Option (List Token) := tokensWithin cs.length cs

/-- A text of separators alone has no tokens. -/
theorem tokens?_of_separators {cs : List Char} (h : ∀ c ∈ cs, isSeparator c = true) :
    tokens? cs = some [] := by
  have dropped : (cs ++ []).dropWhile isSeparator = [] := List.dropWhile_append_of_pos h
  rw [List.append_nil] at dropped
  unfold tokens? tokensWithin
  simp [dropped]

end Recordwise.Query
