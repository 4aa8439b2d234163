/-
  Recordwise.Log
  ──────────────
  **What a transform reports while it works.**

  Every report is an entry with a level.  Rejected records are errors and
  dropped fields warnings; the other entries follow a record, or a statement
  being made ready, step by step.  Main statements:

      level_eq_error_iff — an error reports a rejected record, and nothing else
      level_eq_warn_iff  — a warning reports a dropped field, and nothing else
-/
import Recordwise.Failure

namespace Recordwise.Log

/-- How urgent an entry is. -/
inductive Level where
  /-- A record is lost. -/
  | error
  /-- A field is lost. -/
  | warn
  /-- A statement is ready. -/
  | info
  /-- A step is done. -/
  | debug
  deriving Repr, DecidableEq

/-- The name of a level. -/
def Level.name : Level → String
  | .error => "ERROR"
  | .warn => "WARN"
  | .info => "INFO"
  | .debug => "DEBUG"

/-- A report; values, expressions and conditions are given by their text. -/
inductive Entry where
  /-- An output field is resolved. -/
  | compiledField (name expr : String)
  /-- The condition is resolved. -/
  | compiledFilter (condition : String)
  /-- The statement is resolved. -/
  | compiledStatement (source : String) (outputs : Nat) (filtered : Bool)
  /-- A transform is ready. -/
  | created (outputs : Nat) (zone : String)
  /-- A record is rejected. -/
  | rejected (f : Failure)
  /-- The condition does not hold of a record. -/
  | filteredOut
  /-- A field is null. -/
  | unset (name : String)
  /-- A field has a value. -/
  | set (name value : String)
  /-- A field's expression failed. -/
  | dropped (f : Failure)
  /-- No field has a value. -/
  | noneSurvived
  deriving Repr, DecidableEq

/-- The level of an entry. -/
def Entry.level : Entry → Level
  | .rejected _ => .error
  | .dropped _ => .warn
  | .compiledStatement _ _ _ => .info
  | .created _ _ => .info
  | _ => .debug

/-- The text of an entry. -/
def Entry.message : Entry → String
  | .compiledField name expr => "Compiled field '" ++ name ++ "' = " ++ expr
  | .compiledFilter condition => "Compiled filter: " ++ condition
  | .compiledStatement source outputs filtered =>
    "Compiled transform from '" ++ source ++ "' with " ++ Nat.repr outputs ++ " output field(s)"
      ++ (if filtered then " and a filter" else "")
  | .created outputs zone =>
    "Created transform processor: " ++ Nat.repr outputs ++ " output field(s), time zone " ++ zone
  | .rejected f => "Rejected record (" ++ f.category.name ++ "): " ++ f.message
  | .filteredOut => "Record filtered out by where clause"
  | .unset name => "Field '" ++ name ++ "' is null, leaving it unset"
  | .set name value => "Field '" ++ name ++ "' = '" ++ value ++ "'"
  | .dropped f => "Dropping field: " ++ f.message
  | .noneSurvived => "No output field survived evaluation"

/-- An error reports a rejected record, and nothing else. -/
theorem level_eq_error_iff {e : Entry} : e.level = .error ↔ ∃ f, e = .rejected f := by
  cases e <;> simp [Entry.level]

/-- A warning reports a dropped field, and nothing else. -/
theorem level_eq_warn_iff {e : Entry} : e.level = .warn ↔ ∃ f, e = .dropped f := by
  cases e <;> simp [Entry.level]

end Recordwise.Log
