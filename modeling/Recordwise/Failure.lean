/-
  Recordwise.Failure
  ──────────────────
  **What can go wrong, and how it is reported.**

  A failure names the stage that refused its input.  `message` is the one
  line shown to a user, `category` the coarse class that a log line carries.
  Main statement:

      isValue_evaluation — wrapping a failure as the failure of a field does
                           not change whether it is a value failure
-/

namespace Recordwise

/-- A refusal, by the stage that refused. -/
inductive Failure where
  /-- The statement text, or a name in it, is not acceptable. -/
  | parse (detail : String)
  /-- A function refused its arguments. -/
  | value (function detail : String)
  /-- A raw record cannot be read. -/
  | decode (detail : String)
  /-- An output record cannot be written. -/
  | encode (detail : String)
  /-- The expression of an output field failed. -/
  | evaluation (field : String) (cause : Failure)
  /-- A setting is not acceptable; `key` names it when one setting is to
  blame. -/
  | configuration (detail : String) (key : Option String)
  deriving Repr, DecidableEq

namespace Failure

/-- The coarse class of a failure. -/
inductive Category where
  /-- Statement text and names. -/
  | parse
  /-- Functions and fields. -/
  | evaluation
  /-- Reading and writing records. -/
  | recordBoundary
  /-- Settings. -/
  | configuration
  deriving Repr, DecidableEq

/-- The word that log lines use for a class. -/
def Category.name : Category → String
  | .parse => "PARSE"
  | .evaluation => "EVALUATION"
  | .recordBoundary => "RECORD_BOUNDARY"
  | .configuration => "CONFIGURATION"

/-- The line shown to a user. -/
def message : Failure → String
  | parse d => "Parse error: " ++ d
  | value f d => "Value error in " ++ f ++ "(): " ++ d
  | decode d => "Decode error: " ++ d
  | encode d => "Encode error: " ++ d
  | evaluation field cause => "Evaluation of field '" ++ field ++ "' failed: " ++ cause.message
  | configuration d _ => "Configuration error: " ++ d

/-- The coarse class of a failure. -/
def category : Failure → Category
  | parse _ => .parse
  | value _ _ => .evaluation
  | evaluation _ _ => .evaluation
  | decode _ => .recordBoundary
  | encode _ => .recordBoundary
  | configuration _ _ => .configuration

/-- Whether the statement was refused. -/
def isParse : Failure → Bool
  | parse _ => true
  | _ => false

/-- Whether a function refused its arguments, for a field or on its own. -/
def isValue : Failure → Bool
  | value _ _ => true
  | evaluation _ cause => cause.isValue
  | _ => false

/-- The setting to blame, if the failure names one. -/
def key? : Failure → Option String
  | configuration _ k => k
  | _ => none

theorem isValue_evaluation (field : String) (f : Failure) :
    (evaluation field f).isValue = f.isValue := by
  simp [isValue]

end Failure

end Recordwise
