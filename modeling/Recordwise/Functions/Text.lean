/-
  Recordwise.Functions.Text
  ─────────────────────────
  **The functions on texts.**

  Lengths and positions count characters.  A null argument makes the result
  null, except in `concat`, which leaves it out.  Main statements:

      concat_null_cons     — null arguments are left out
      replaceAll_of_absent — where the pattern does not occur nothing changes
-/
import Recordwise.Functions.Argument
import Recordwise.Text.CaseMapping

namespace Recordwise.Functions

/-! ## §1. Whole texts. -/

/-- Apply a function of one text. -/
def onText (function : String) (f : List Char → Value) (args : List Value) :
    Except Failure Value :=
  (textArg function args 0).map fun
    | some s => f s.toList
    | none => .null

/-- The texts of the arguments that are not null, one behind the other. -/
def concat (args : List Value) : Except Failure Value :=
  .ok (.text (String.join (args.filterMap Value.text?)))

/-- The lower case of a text. -/
def lower : List Value → Except Failure Value :=
  onText "lower" fun cs => .text (String.ofList (Text.lower cs))

/-- The upper case of a text. -/
def upper : List Value → Except Failure Value :=
  onText "upper" fun cs => .text (String.ofList (Text.upper cs))

/-- The number of characters of a text. -/
def length : List Value → Except Failure Value :=
  onText "length" fun cs => .integer (Int64.ofNat cs.length)

/-- A text without the blanks at its ends. -/
def trim : List Value → Except Failure Value :=
  onText "trim" fun cs => .text (String.ofList (Text.trim cs))

/-! ## §2. Substrings. -/

/-- The place, counted from zero, where a substring begins: `start` counts
from one, or from the end of the text when it is negative. -/
def beginning (count : Nat) (start : Int) : Nat :=
  if 0 < start then (start - 1).toNat
  else if start < 0 then (count + start).toNat
  else 0

/-- The characters from a start on, all or a number of them. -/
def slice (cs : List Char) (start : Int) (len? : Option Nat) : List Char :=
  let tail := cs.drop (beginning cs.length start)
  match len? with
  | some len => tail.take len
  | none => tail

/-- The part of a text from a start on, with a length or to the end. -/
def substring (args : List Value) : Except Failure Value := do
  let some text ← textArg "substring" args 0 | return .null
  let some start ← integerArg "substring" args 1 | return .null
  if 2 < args.length then
    let some len ← integerArg "substring" args 2 | return .null
    if len.toInt < 0 then
      throw (.value "substring" ("length must not be negative, got "
        ++ String.ofList (Decimal.intText len.toInt)))
    return .text (String.ofList (slice text.toList start.toInt (some len.toInt.toNat)))
  else return .text (String.ofList (slice text.toList start.toInt none))

/-! ## §3. Replacement. -/

/-- Put `new` for every occurrence of `pattern`, from left to right; `skip`
characters still belong to the last occurrence. -/
def replaceFrom (pattern new : List Char) (skip : Nat) : List Char → List Char
  | [] => []
  | c :: cs =>
    if 0 < skip then replaceFrom pattern new (skip - 1) cs
    else if pattern.isPrefixOf (c :: cs) then
      new ++ replaceFrom pattern new (pattern.length - 1) cs
    else c :: replaceFrom pattern new 0 cs

/-- Put `new` for every occurrence of `pattern`, which is not empty. -/
def replaceAll (pattern new cs : List Char) : List Char := replaceFrom pattern new 0 cs

/-- Where the pattern does not occur nothing changes. -/
theorem replaceAll_of_absent {pattern cs : List Char} (h : ¬ pattern <:+: cs) (new : List Char) :
    replaceAll pattern new cs = cs := by
  unfold replaceAll
  induction cs with
  | nil => rfl
  | cons c cs ih =>
    have hp : pattern.isPrefixOf (c :: cs) = false := by
      rw [Bool.eq_false_iff]
      exact fun e => h (List.isPrefixOf_iff_prefix.1 e).isInfix
    have hc : ¬ pattern <:+: cs := fun e => h (e.trans (List.suffix_cons c cs).isInfix)
    simp [replaceFrom, hp, ih hc]

/-- A text with every occurrence of a pattern replaced; an empty pattern
occurs nowhere. -/
def replace (args : List Value) : Except Failure Value := do
  let text? ← textArg "replace" args 0
  let pattern? ← textArg "replace" args 1
  let new? ← textArg "replace" args 2
  match text?, pattern?, new? with
  | some text, some pattern, some new =>
    if pattern = "" then return .text text
    else return .text (String.ofList (replaceAll pattern.toList new.toList text.toList))
  | _, _, _ => return .null

theorem concat_null_cons (args : List Value) : concat (.null :: args) = concat args := rfl

end Recordwise.Functions
