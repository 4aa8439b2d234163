/-
  Recordwise.Builtin
  ──────────────────
  **The built-in functions, by name and number of arguments.**

  A name may have several overloads that accept different numbers of
  arguments; a call goes to the first overload of its name that accepts its
  number.  Main statements:

      lookup?_some — the overload found has the name and accepts the count
      check_eq_ok  — a call is accepted exactly when an overload is found
-/
import Recordwise.Functions.Choice
import Recordwise.Functions.Signature
import Recordwise.Functions.Temporal

namespace Recordwise

/-! ## §1. The overloads. -/

/-- An overload of a built-in function. -/
inductive Builtin where
  /-- The date of a text by the formats of the context. -/
  | toDate
  /-- The date of a text by a pattern. -/
  | toDateBy
  /-- The local time of an instant by a pattern. -/
  | dateFormat
  /-- The local time of an instant, date and time of day. -/
  | fromUnixtime
  /-- The count of seconds of a local time. -/
  | unixTimestamp
  /-- A part of a text's local time. -/
  | part (p : Functions.DatePart)
  /-- Texts one behind the other. -/
  | concat
  /-- Lower case. -/
  | lower
  /-- Upper case. -/
  | upper
  /-- The number of characters. -/
  | length
  /-- A text without the blanks at its ends. -/
  | trim
  /-- A part of a text. -/
  | substring
  /-- A text with occurrences replaced. -/
  | replace
  /-- The magnitude. -/
  | abs
  /-- Rounding, to an integer or to places. -/
  | round
  /-- The least integer not below. -/
  | ceil
  /-- The greatest integer not above. -/
  | floor
  /-- What truncated division leaves over. -/
  | modulo
  /-- A power. -/
  | power
  /-- The lesser. -/
  | min
  /-- The greater. -/
  | max
  /-- The first argument that is not null. -/
  | coalesce
  /-- The first argument, or the second for null. -/
  | ifNull
  /-- The text of a value. -/
  | toText
  /-- The number of a value. -/
  | toNumber
  deriving Repr, DecidableEq

namespace Builtin

/-- The overloads, in the order in which they are tried. -/
def all : List Builtin :=
  [toDate, toDateBy, dateFormat, fromUnixtime, unixTimestamp, part .year, part .quarter,
    part .month, part .week, part .dayOfYear, part .dayOfMonth, part .dayOfWeek, part .hour,
    part .minute, part .second, concat, lower, upper, length, trim, substring, replace, abs,
    round, ceil, floor, modulo, power, min, max, coalesce, ifNull, toText, toNumber]

/-- The name that statements call. -/
def name : Builtin → String
  | toDate => "to_date"
  | toDateBy => "to_date"
  | dateFormat => "date_format"
  | fromUnixtime => "from_unixtime"
  | unixTimestamp => "unix_timestamp"
  | part p => p.function
  | concat => "concat"
  | lower => "lower"
  | upper => "upper"
  | length => "length"
  | trim => "trim"
  | substring => "substring"
  | replace => "replace"
  | abs => "abs"
  | round => "round"
  | ceil => "ceil"
  | floor => "floor"
  | modulo => "mod"
  | power => "power"
  | min => "min"
  | max => "max"
  | coalesce => "coalesce"
  | ifNull => "if_null"
  | toText => "to_string"
  | toNumber => "to_number"

/-- The counts of arguments that an overload accepts. -/
def arity : Builtin → Arity
  | toDateBy | dateFormat | modulo | power | min | max | ifNull => .exactly 2
  | unixTimestamp | round => .between 1 2
  | substring => .between 2 3
  | replace => .exactly 3
  | concat | coalesce => .atLeast 1
  | _ => .exactly 1

/-- What an overload is for. -/
def purpose : Builtin → Purpose
  | toDate | toDateBy | dateFormat | fromUnixtime | unixTimestamp | part _ => .temporal
  | concat | lower | upper | length | trim | substring | replace => .text
  | abs | round | ceil | floor | modulo | power | min | max => .numeric
  | coalesce | ifNull => .conditional
  | toText | toNumber => .conversion

/-- Apply an overload to arguments, whatever their number. -/
def apply (ctx : Context) : Builtin → List Value → Eval Value
  | toDate, args => Eval.ofExcept (Functions.toDate ctx args)
  | toDateBy, args => Functions.toDateBy args
  | dateFormat, args => Functions.dateFormat ctx args
  | fromUnixtime, args => Functions.fromUnixtime ctx args
  | unixTimestamp, args => Functions.unixTimestamp ctx args
  | part p, args => Eval.ofExcept (Functions.datePart p ctx args)
  | concat, args => Eval.ofExcept (Functions.concat args)
  | lower, args => Eval.ofExcept (Functions.lower args)
  | upper, args => Eval.ofExcept (Functions.upper args)
  | length, args => Eval.ofExcept (Functions.length args)
  | trim, args => Eval.ofExcept (Functions.trim args)
  | substring, args => Eval.ofExcept (Functions.substring args)
  | replace, args => Eval.ofExcept (Functions.replace args)
  | abs, args => Eval.ofExcept (Functions.abs args)
  | round, args => Eval.ofExcept (Functions.round args)
  | ceil, args => Eval.ofExcept (Functions.ceil args)
  | floor, args => Eval.ofExcept (Functions.floor args)
  | modulo, args => Eval.ofExcept (Functions.modulo args)
  | power, args => Eval.ofExcept (Functions.power args)
  | min, args => Eval.ofExcept (Functions.min args)
  | max, args => Eval.ofExcept (Functions.max args)
  | coalesce, args => Eval.ofExcept (Functions.coalesce args)
  | ifNull, args => Eval.ofExcept (Functions.ifNull args)
  | toText, args => Eval.ofExcept (Functions.toText args)
  | toNumber, args => Eval.ofExcept (Functions.toNumber args)

/-! ## §2. Finding the overload of a call. -/

/-- The overloads of a name. -/
def overloads (name : String) : List Builtin := all.filter (·.name == name)

/-- Whether a name has an overload. -/
def isName (name : String) : Bool := !(overloads name).isEmpty

/-- The overload of a name that accepts a number of arguments. -/
def lookup? (name : String) (count : Nat) : Option Builtin :=
  (overloads name).find? (·.arity.accepts count)

/-- The names, in order. -/
def names : List String := (all.map name).eraseDups.mergeSort (decide <| · ≤ ·)

/-- Why a call is refused before it is made. -/
inductive CallFault where
  /-- There is no such function. -/
  | unknownFunction (name : String)
  /-- No overload accepts the number of arguments. -/
  | wrongCount (name : String) (accepted : List Arity) (count : Nat)
  deriving Repr, DecidableEq

/-- How the refusal of a call is reported. -/
def CallFault.message : CallFault → String
  | .unknownFunction name => "Unknown function: " ++ name
  | .wrongCount name accepted count =>
    "Function " ++ name ++ "() takes " ++ String.intercalate " or " (accepted.map Arity.text)
      ++ " argument(s), got " ++ Nat.repr count

/-- The overload of a call, or why the call is refused. -/
def check (name : String) (count : Nat) : Except CallFault Builtin :=
  match lookup? name count with
  | some b => .ok b
  | none =>
    if isName name then .error (.wrongCount name ((overloads name).map arity) count)
    else .error (.unknownFunction name)

/-- Call a function with arguments. -/
def call (ctx : Context) (name : String) (args : List Value) : Eval Value :=
  match check name args.length with
  | .ok b => b.apply ctx args
  | .error e => Eval.fail (.parse e.message)

theorem lookup?_some {name : String} {count : Nat} {b : Builtin} (h : lookup? name count = some b) :
    b.name = name ∧ b.arity.accepts count = true := by
  have hm := List.mem_of_find?_eq_some h
  have ha := List.find?_some h
  exact ⟨by simpa using (List.mem_filter.1 hm).2, ha⟩

/-- A call is accepted exactly when an overload is found. -/
theorem check_eq_ok {name : String} {count : Nat} {b : Builtin} :
    check name count = .ok b ↔ lookup? name count = some b := by
  unfold check
  cases h : lookup? name count with
  | some c => simp
  | none => by_cases hn : isName name = true <;> simp [hn]

theorem call_of_check {name : String} {args : List Value} {b : Builtin}
    (found : check name args.length = .ok b) (ctx : Context) :
    call ctx name args = b.apply ctx args := by
  unfold call
  rw [found]

end Builtin

end Recordwise
