/-
  Recordwise.Functions.Signature
  ──────────────────────────────
  **How many arguments a function takes, and what it is for.**

  Main statements:

      accepts_exactly — an exact arity accepts one count
      accepts_between — a bounded arity accepts the counts in its bounds
-/

namespace Recordwise

/-- The counts of arguments that a function takes. -/
structure Arity where
  /-- The fewest arguments. -/
  least : Nat
  /-- The most arguments; `none` when there is no bound. -/
  most? : Option Nat
  deriving Repr, DecidableEq

namespace Arity

/-- Exactly `n` arguments. -/
def exactly (n : Nat) : Arity := ⟨n, some n⟩

/-- From `a` to `b` arguments. -/
def between (a b : Nat) : Arity := ⟨a, some b⟩

/-- `n` arguments or more. -/
def atLeast (n : Nat) : Arity := ⟨n, none⟩

/-- Whether a count of arguments is accepted. -/
def accepts (a : Arity) (count : Nat) : Bool := a.least ≤ count && a.most?.all (count ≤ ·)

/-- The text of an arity: `n`, `a..b` or `n+`. -/
def text (a : Arity) : String :=
  match a.most? with
  | some b => if b = a.least then Nat.repr b else Nat.repr a.least ++ ".." ++ Nat.repr b
  | none => Nat.repr a.least ++ "+"

theorem accepts_exactly {n count : Nat} : (exactly n).accepts count = true ↔ count = n := by
  show (decide (n ≤ count) && decide (count ≤ n)) = true ↔ count = n
  simp only [Bool.and_eq_true, decide_eq_true_eq]; omega

theorem accepts_between {a b count : Nat} :
    (between a b).accepts count = true ↔ a ≤ count ∧ count ≤ b := by
  show (decide (a ≤ count) && decide (count ≤ b)) = true ↔ _
  rw [Bool.and_eq_true, decide_eq_true_eq, decide_eq_true_eq]

end Arity

/-- What a function is for. -/
inductive Purpose where
  /-- Dates and times. -/
  | temporal
  /-- Texts. -/
  | text
  /-- Numbers. -/
  | numeric
  /-- Choosing between values. -/
  | conditional
  /-- Changing the kind of a value. -/
  | conversion
  deriving Repr, DecidableEq

end Recordwise
