/-
  Recordwise.DatePattern.Reading
  ──────────────────────────────
  **Reading a local time by a pattern.**

  Tokens are read in order.  A year takes four digits.  Another field takes
  two digits, or one when it is delimited: when literal text follows it, or
  when it ends the pattern right behind literal text.  Fields that the
  pattern lacks are 1 in the date and 0 in the time; the year may not be
  lacking.  Of a field that occurs twice the last value counts.  Main
  statement:

      readTokens_literal — literal text is read by matching it
-/
import Recordwise.Calendar.LocalTime
import Recordwise.Decimal.Reading
import Recordwise.DatePattern.Basic

namespace Recordwise.DatePattern

open Calendar

/-! ## §1. Faults. -/

/-- Why a text is refused. -/
inductive ParseFault where
  /-- The literal text does not come next. -/
  | expectedLiteral (cs : List Char)
  /-- Fewer digits come next than the field needs. -/
  | expectedDigits (least : Nat) (rest : List Char)
  /-- Text is left over. -/
  | trailingText (rest : List Char)
  /-- The pattern has no year. -/
  | noYear
  /-- There is no such month. -/
  | noMonth (month : Nat)
  /-- The month has no such day. -/
  | noDay (date : Date)
  /-- No clock shows the time. -/
  | noTime (hour minute second : Nat)
  deriving Repr, DecidableEq

/-- How the refusal of a text is reported, for the pattern's source. -/
def ParseFault.message (source text : String) : ParseFault → String
  | .expectedLiteral cs =>
    "expected '" ++ String.ofList cs ++ "' in '" ++ text ++ "' for pattern '" ++ source ++ "'"
  | .expectedDigits least rest =>
    "expected " ++ Nat.repr least ++ " digit(s) at '" ++ String.ofList rest ++ "' in '" ++ text
      ++ "' for pattern '" ++ source ++ "'"
  | .trailingText rest =>
    "unparsed trailing text '" ++ String.ofList rest ++ "' in '" ++ text ++ "' for pattern '"
      ++ source ++ "'"
  | .noYear => "pattern '" ++ source ++ "' has no year field"
  | .noMonth month => "month " ++ Nat.repr month ++ " out of range in '" ++ text ++ "'"
  | .noDay d =>
    "day " ++ Nat.repr d.day ++ " out of range for " ++ String.ofList (paddedInt 4 d.year) ++ "-"
      ++ String.ofList (padded 2 d.month) ++ " in '" ++ text ++ "'"
  | .noTime h m s =>
    "time " ++ String.ofList (padded 2 h) ++ ":" ++ String.ofList (padded 2 m) ++ ":"
      ++ String.ofList (padded 2 s) ++ " out of range in '" ++ text ++ "'"

/-! ## §2. Fields. -/

/-- The field values read so far. -/
structure Reading where
  /-- The year, once it is read. -/
  year? : Option Nat := none
  /-- The month. -/
  month : Nat := 1
  /-- The day of the month. -/
  day : Nat := 1
  /-- The hour. -/
  hour : Nat := 0
  /-- The minute. -/
  minute : Nat := 0
  /-- The second. -/
  second : Nat := 0
  deriving Repr, DecidableEq

/-- Take a field's value; literal text has none. -/
def Reading.set (r : Reading) (n : Nat) : Token → Reading
  | .year => { r with year? := some n }
  | .month => { r with month := n }
  | .day => { r with day := n }
  | .hour => { r with hour := n }
  | .minute => { r with minute := n }
  | .second => { r with second := n }
  | .literal _ => r

/-- The local time of the fields, if calendar and clock have it. -/
def Reading.finish (r : Reading) : Except ParseFault LocalTime :=
  match r.year? with
  | none => .error .noYear
  | some y =>
    if r.month < 1 ∨ 12 < r.month then .error (.noMonth r.month)
    else
      let date : Date := ⟨y, r.month, r.day⟩
      if !date.isValid then .error (.noDay date)
      else if !LocalTime.isClockTime r.hour r.minute r.second then
        .error (.noTime r.hour r.minute r.second)
      else .ok ⟨date, r.hour, r.minute, r.second⟩

/-! ## §3. Tokens. -/

/-- The most digits that a field takes. -/
def Token.width : Token → Nat
  | .year => 4
  | .literal cs => cs.length
  | _ => 2

/-- Whether a field is set off from its neighbours, where `afterLiteral` says
that literal text precedes it and `following` are the tokens behind it. -/
def isDelimited (afterLiteral : Bool) : List Token → Bool
  | t :: _ => t.isLiteral
  | [] => afterLiteral

/-- The fewest digits that a field takes. -/
def leastDigits (t : Token) (afterLiteral : Bool) (following : List Token) : Nat :=
  if t ≠ .year && isDelimited afterLiteral following then 1 else t.width

/-- The digits at the start of a text, `most` at most. -/
def leadingDigits (most : Nat) (cs : List Char) : List Char :=
  (cs.take most).takeWhile Decimal.isDigit

/-- The rest of a text behind a literal text. -/
def stripLiteral? : List Char → List Char → Option (List Char)
  | [], r => some r
  | c :: cs, d :: r => if c = d then stripLiteral? cs r else none
  | _ :: _, [] => none

/-- Read a text by tokens. -/
def readTokens (afterLiteral : Bool) : List Token → List Char → Reading →
    Except ParseFault Reading
  | [], [], r => .ok r
  | [], c :: cs, _ => .error (.trailingText (c :: cs))
  | .literal l :: ts, cs, r =>
    match stripLiteral? l cs with
    | some rest => readTokens true ts rest r
    | none => .error (.expectedLiteral l)
  | t :: ts, cs, r =>
    -- a field takes as many digits as it can, even where one would do
    let digits := leadingDigits t.width cs
    let least := leastDigits t afterLiteral ts
    if digits.length < least then .error (.expectedDigits least cs)
    else readTokens false ts (cs.drop digits.length) (r.set (Decimal.natOfDigits digits) t)

/-- Read a local time. -/
def parse (p : DatePattern) (text : String) : Except ParseFault LocalTime := do
  (← readTokens false p.tokens text.toList {}).finish

theorem stripLiteral?_append (cs r : List Char) : stripLiteral? cs (cs ++ r) = some r := by
  induction cs with
  | nil => rfl
  | cons c cs ih => simp [stripLiteral?, ih]

theorem stripLiteral?_eq_some {l cs rest : List Char} (h : stripLiteral? l cs = some rest) :
    cs = l ++ rest := by
  induction l generalizing cs with
  | nil => exact Option.some.inj h
  | cons c l ih =>
      cases cs with
      | nil => cases h
      | cons d cs =>
          rw [stripLiteral?] at h
          split at h
          · rename_i same
            rw [same, List.cons_append, ih h]
          · cases h

/-- Literal text is read by matching it. -/
theorem readTokens_literal (afterLiteral : Bool) (l : List Char) (ts : List Token)
    (cs : List Char) (r : Reading) :
    readTokens afterLiteral (.literal l :: ts) (l ++ cs) r = readTokens true ts cs r := by
  simp [readTokens, stripLiteral?_append]

end Recordwise.DatePattern
