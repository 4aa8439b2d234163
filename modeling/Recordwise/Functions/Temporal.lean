/-
  Recordwise.Functions.Temporal
  ─────────────────────────────
  **The functions on dates and times.**

  A date is a text, read by a pattern or by the formats of the context; an
  instant is a count of seconds, read in the zone of the context.  A null
  first argument makes the result null.  Main statements:

      readDefault_trim             — blanks around a date do not count
      exists_parse_of_readDefault? — what is read is read by one of the formats
      toDate_null                  — a null date has no text
-/
import Recordwise.Calendar.Instant
import Recordwise.DatePattern.Writing
import Recordwise.Evaluation.Context
import Recordwise.Evaluation.Eval
import Recordwise.Functions.Argument

namespace Recordwise.Functions

open Calendar

/-! ## §1. Reading dates and instants. -/

/-- The local time of a text by the first format that reads it. -/
def readDefault? (ctx : Context) (text : String) : Option LocalTime :=
  ctx.formats.findSome? fun p => (p.parse (Text.trimmed text)).toOption

/-- The local time of a text by the formats of the context. -/
def readDefault (function : String) (ctx : Context) (text : String) :
    Except Failure LocalTime :=
  match readDefault? ctx text with
  | some t => .ok t
  | none => .error (.value function ("'" ++ text ++ "' does not match any known date format"))

/-- The local time of a text by a compiled pattern. -/
def readWith (function : String) (p : DatePattern) (text : String) : Except Failure LocalTime :=
  let trimmed := Text.trimmed text
  match p.parse trimmed with
  | .ok t => .ok t
  | .error e => .error (.value function (e.message p.source trimmed))

/-- The local time of a text by a pattern. -/
def readBy (function source text : String) : Eval LocalTime := do
  let p ← Eval.pattern function source
  Eval.ofExcept (readWith function p text)

/-- The refusal of a count of seconds outside the calendar. -/
def epochOutOfRange (function : String) (seconds : Int) : Failure :=
  .value function ("epoch " ++ String.ofList (Decimal.intText seconds) ++ " out of range")

/-- The instant of a count of seconds in the zone of the context. -/
def instantOf (function : String) (ctx : Context) (seconds : Int64) : Except Failure Instant :=
  match Instant.ofSeconds? seconds.toInt ctx.zone with
  | some i => .ok i
  | none => .error (epochOutOfRange function seconds.toInt)

/-- The instant that the first argument denotes; null or nothing denotes
none. -/
def instantArg (function : String) (ctx : Context) (args : List Value) :
    Except Failure (Option Instant) :=
  match args.head? with
  | none | some .null => .ok none
  | some v =>
    match v.asInteger? with
    | some n => (instantOf function ctx n).map some
    | none =>
      .error (.value function ("expected epoch seconds, got " ++ v.typeName ++ " '" ++ v.render
        ++ "'"))

/-- The pattern that the second argument gives; it may not be null. -/
def patternArg (function : String) (args : List Value) : Except Failure String := do
  match ← textArg function args 1 with
  | some source => return source
  | none => throw (.value function "pattern must not be null")

/-! ## §2. Writing dates and instants. -/

/-- The date of a local time. -/
def dateValue (t : LocalTime) : Value := .text (String.ofList t.toDate.text)

/-- The local time of an instant by a pattern, for the years that four digits
write. -/
def renderInstant (function : String) (p : DatePattern) (i : Instant) : Eval Value :=
  match i.local? with
  | none => Eval.offCalendar
  | some t =>
    if t.year < 0 ∨ 9999 < t.year then
      Eval.fail (.value function ("year " ++ String.ofList (Decimal.intText t.year)
        ++ " is outside 0000-9999"))
    else pure (.text (p.format t))

/-! ## §3. The functions. -/

/-- The date of a text by the formats of the context. -/
def toDate (ctx : Context) (args : List Value) : Except Failure Value := do
  let some text ← textArg "to_date" args 0 | return .null
  return dateValue (← readDefault "to_date" ctx text)

/-- The date of a text by a pattern. -/
def toDateBy (args : List Value) : Eval Value := do
  let some text ← Eval.ofExcept (textArg "to_date" args 0) | return .null
  let source ← Eval.ofExcept (patternArg "to_date" args)
  return dateValue (← readBy "to_date" source text)

/-- The local time of an instant by a pattern. -/
def dateFormat (ctx : Context) (args : List Value) : Eval Value := do
  let some i ← Eval.ofExcept (instantArg "date_format" ctx args) | return .null
  let source ← Eval.ofExcept (patternArg "date_format" args)
  let p ← Eval.pattern "date_format" source
  renderInstant "date_format" p i

/-- The pattern of `from_unixtime`. -/
def standardPattern : String := "yyyy-MM-dd HH:mm:ss"

/-- The local time of an instant, date and time of day. -/
def fromUnixtime (ctx : Context) (args : List Value) : Eval Value := do
  let some n ← Eval.ofExcept (integerArg "from_unixtime" args 0) | return .null
  let i ← Eval.ofExcept (instantOf "from_unixtime" ctx n)
  let p ← Eval.pattern "from_unixtime" standardPattern
  renderInstant "from_unixtime" p i

/-- The local time of a text, by a pattern if there is a second argument. -/
def localTimeArg (ctx : Context) (args : List Value) (text : String) : Eval LocalTime := do
  if 1 < args.length then
    let source ← Eval.ofExcept (patternArg "unix_timestamp" args)
    readBy "unix_timestamp" source text
  else Eval.ofExcept (readDefault "unix_timestamp" ctx text)

/-- The count of seconds of a local time in a zone. -/
def epochValue (zone : Zone) (t : LocalTime) : Except Failure Value :=
  match Instant.ofLocal? t zone with
  | some i => .ok (.integer (Int64.ofInt i.seconds))
  | none => .error (.value "unix_timestamp" (Instant.skippedMessage t zone))

/-- The count of seconds of a text's local time in the zone of the context. -/
def unixTimestamp (ctx : Context) (args : List Value) : Eval Value := do
  let some text ← Eval.ofExcept (textArg "unix_timestamp" args 0) | return .null
  let t ← localTimeArg ctx args text
  Eval.ofExcept (epochValue ctx.zone t)

/-! ## §4. Parts of a date. -/

/-- A part of a date or a time of day that a function reads off. -/
inductive DatePart where
  /-- The year. -/
  | year
  /-- The quarter of the year, from 1. -/
  | quarter
  /-- The month. -/
  | month
  /-- The week of the year. -/
  | week
  /-- The day's place in the year, from 1. -/
  | dayOfYear
  /-- The day of the month. -/
  | dayOfMonth
  /-- The weekday, counted from Sunday, which is 1. -/
  | dayOfWeek
  /-- The hour. -/
  | hour
  /-- The minute. -/
  | minute
  /-- The second. -/
  | second
  deriving Repr, DecidableEq

/-- The name of the function that reads a part. -/
def DatePart.function : DatePart → String
  | .year => "year"
  | .quarter => "quarter"
  | .month => "month"
  | .week => "week"
  | .dayOfYear => "dayofyear"
  | .dayOfMonth => "dayofmonth"
  | .dayOfWeek => "dayofweek"
  | .hour => "hour"
  | .minute => "minute"
  | .second => "second"

/-- The part of a local time. -/
def DatePart.read (t : LocalTime) : DatePart → Int
  | .year => t.year
  | .quarter => ((t.month - 1) / 3 + 1 : Nat)
  | .month => t.month
  | .week => weekOfYear t.toDate.number
  | .dayOfYear => t.toDate.ordinal
  | .dayOfMonth => t.day
  | .dayOfWeek => Calendar.dayOfWeek t.toDate.number
  | .hour => t.hour
  | .minute => t.minute
  | .second => t.second

/-- Read a part of a text's local time. -/
def datePart (part : DatePart) (ctx : Context) (args : List Value) : Except Failure Value := do
  let some text ← textArg part.function args 0 | return .null
  let t ← readDefault part.function ctx text
  return .integer (Int64.ofInt (part.read t))

/-! ## §5. First laws. -/

theorem readDefault_trim {ctx : Context} {s t : String} (h : Text.trimmed s = Text.trimmed t) :
    readDefault? ctx s = readDefault? ctx t := by
  simp [readDefault?, h]

theorem readDefault_eq_ok_iff {function text : String} {ctx : Context} {t : LocalTime} :
    readDefault function ctx text = .ok t ↔ readDefault? ctx text = some t := by
  unfold readDefault
  cases readDefault? ctx text <;> simp

/-- What is read is read by one of the formats. -/
theorem exists_parse_of_readDefault? {ctx : Context} {text : String} {t : LocalTime}
    (read : readDefault? ctx text = some t) :
    ∃ p ∈ ctx.formats, p.parse (Text.trimmed text) = .ok t := by
  obtain ⟨p, listed, parsed⟩ := List.exists_of_findSome?_eq_some read
  refine ⟨p, listed, ?_⟩
  cases result : p.parse (Text.trimmed text) with
  | ok u =>
    rw [result] at parsed
    rw [Option.some.inj parsed]
  | error e =>
    rw [result] at parsed
    cases parsed

theorem toDate_null (ctx : Context) (rest : List Value) :
    toDate ctx (.null :: rest) = .ok .null := rfl

end Recordwise.Functions
