/-
  Recordwise.Functions.Argument
  ─────────────────────────────
  **Reading the arguments of a function.**

  Arguments are read by position, as a text, an integer or a number.  A null
  argument reads as `none`; an argument that cannot be read that way, or is
  not there, is refused in the name of the function.  Main statements:

      textArg_null    — null has no text
      integerArg_null — and no integer
      numberArg_null  — and no number
-/
import Recordwise.Failure
import Recordwise.Value

namespace Recordwise.Functions

/-- The refusal of an argument that is not there; positions count from
zero. -/
def missing (function : String) (i : Nat) : Failure :=
  .value function ("missing argument " ++ Nat.repr (i + 1))

/-- The refusal of an argument of another kind than wanted. -/
def mismatch (function : String) (i : Nat) (wanted : String) (v : Value) : Failure :=
  .value function ("argument " ++ Nat.repr (i + 1) ++ " must be " ++ wanted ++ ", got "
    ++ v.typeName ++ " '" ++ v.render ++ "'")

/-- Read an argument by `read`; null reads as `none`. -/
def argument {α : Type} (wanted : String) (read : Value → Option α) (function : String)
    (args : List Value) (i : Nat) : Except Failure (Option α) :=
  match args[i]? with
  | none => .error (missing function i)
  | some .null => .ok none
  | some v =>
    match read v with
    | some a => .ok (some a)
    | none => .error (mismatch function i wanted v)

/-- Read an argument as a text. -/
def textArg (function : String) (args : List Value) (i : Nat) : Except Failure (Option String) :=
  match args[i]? with
  | none => .error (missing function i)
  | some v => .ok v.text?

/-- Read an argument as an integer. -/
def integerArg : String → List Value → Nat → Except Failure (Option Int64) :=
  argument "an integer" Value.asInteger?

/-- Read an argument as a number. -/
def numberArg : String → List Value → Nat → Except Failure (Option Float) :=
  argument "numeric" Value.asFloat?

theorem textArg_head (function : String) (v : Value) (rest : List Value) :
    textArg function (v :: rest) 0 = .ok v.text? := rfl

theorem textArg_null {args : List Value} {i : Nat} (h : args[i]? = some .null)
    (function : String) : textArg function args i = .ok none := by
  simp [textArg, h, Value.text?]

theorem argument_null {α : Type} {args : List Value} {i : Nat} (h : args[i]? = some .null)
    (wanted : String) (read : Value → Option α) (function : String) :
    argument wanted read function args i = .ok none := by
  simp [argument, h]

theorem integerArg_null {args : List Value} {i : Nat} (h : args[i]? = some .null)
    (function : String) : integerArg function args i = .ok none :=
  argument_null h _ _ _

theorem numberArg_null {args : List Value} {i : Nat} (h : args[i]? = some .null)
    (function : String) : numberArg function args i = .ok none :=
  argument_null h _ _ _

end Recordwise.Functions
