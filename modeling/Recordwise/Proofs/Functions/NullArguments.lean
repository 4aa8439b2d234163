/-
  Recordwise.Proofs.Functions.NullArguments
  ─────────────────────────────────────────
  **Null arguments beside arguments that are refused.**

  The scalar functions other than `concat`, `coalesce` and `if_null` turn a
  null argument into a null result.  They read their arguments from left to
  right, though, and an argument that is no number where one is wanted is
  refused before a null behind it is seen; all but two of them refuse it even
  behind the null.  So a call with a null argument either gives null or
  refuses the first such argument.  Main statements:

      argument_eq       — what reading one argument comes to
      onNumbers_of_null — a function of two numbers, one of them null
      apply_of_null_mem — every such function, null among its arguments
      call_of_null_mem  — when a call gives null, and how it fails otherwise
-/
import Mathlib.Data.List.Basic
import Recordwise.Builtin
import Recordwise.Proofs.Evaluation.Running

namespace Recordwise.Functions

/-! ## §1. What is refused. -/

/-- A kind of number that a function wants an argument to be. -/
inductive Wanted where
  /-- A 64-bit integer. -/
  | integer
  /-- A binary64 number. -/
  | number
  deriving Repr, DecidableEq

namespace Wanted

/-- How a refusal names the kind. -/
def phrase : Wanted → String
  | integer => "an integer"
  | number => "numeric"

/-- Whether an argument is taken for the kind; null always is. -/
def isMetBy : Wanted → Value → Bool
  | integer, v => v.isNull || v.asInteger?.isSome
  | number, v => v.isNull || v.asFloat?.isSome

/-- The refusal of an argument that is not taken for the kind. -/
def refusal? (w : Wanted) (function : String) (i : Nat) (v : Value) : Option Failure :=
  if w.isMetBy v then none else some (mismatch function i w.phrase v)

end Wanted

/-- Null, unless something is refused; of several refusals the first counts. -/
def nullUnless : List Failure → Except Failure Value
  | [] => .ok .null
  | f :: _ => .error f

/-- The refusals that a function has for arguments, in order: `demands` says at
which positions, counted from zero, it wants what. -/
def refusals (function : String) (demands : List (Nat × Wanted)) (args : List Value) :
    List Failure :=
  demands.filterMap fun d => args[d.1]?.bind (d.2.refusal? function d.1)

theorem refusals_eq_nil_iff (function : String) (demands : List (Nat × Wanted))
    (args : List Value) : refusals function demands args = [] ↔
      ∀ i w v, (i, w) ∈ demands → args[i]? = some v → w.isMetBy v = true := by
  unfold refusals
  rw [List.filterMap_eq_nil_iff]
  constructor
  · intro unrefused i w v demanded there
    have met := unrefused (i, w) demanded
    rw [there, Option.bind_some, Wanted.refusal?] at met
    by_contra unmet
    rw [if_neg unmet] at met
    cases met
  · rintro met ⟨i, w⟩ demanded
    cases there : args[i]? with
    | none => rfl
    | some v => rw [Option.bind_some, Wanted.refusal?, if_pos (met i w v demanded there)]

/-! ## §2. Reading one argument. -/

section Arguments

variable {args : List Value} {i : Nat} {v : Value}

/-- What reading an argument comes to: its refusal, or what is read, which of
null is nothing. -/
theorem argument_eq {α : Type} {read : Value → Option α} (w : Wanted) (null : read .null = none)
    (met : ∀ v, w.isMetBy v = (v.isNull || (read v).isSome)) (function : String)
    (there : args[i]? = some v) :
    argument w.phrase read function args i
      = (w.refusal? function i v).elim (.ok (read v)) .error := by
  unfold argument Wanted.refusal?
  rw [there, met v]
  cases v with
  | null =>
    rw [null]
    rfl
  | _ =>
    dsimp only
    split
    · rename_i got
      rw [got]
      rfl
    · rename_i unread
      rw [unread]
      rfl

theorem integerArg_eq (function : String) (there : args[i]? = some v) :
    integerArg function args i =
      (Wanted.integer.refusal? function i v).elim (.ok v.asInteger?) .error :=
  argument_eq .integer rfl (fun _ => rfl) function there

theorem numberArg_eq (function : String) (there : args[i]? = some v) :
    numberArg function args i =
      (Wanted.number.refusal? function i v).elim (.ok v.asFloat?) .error :=
  argument_eq .number rfl (fun _ => rfl) function there

end Arguments

/-! ## §3. Functions of several arguments. -/

variable {u v w : Value}

/-- A function of two numbers reads both, and then finds the null. -/
theorem onNumbers_of_null (function : String) (f : Float → Float → Except Failure Value)
    (null : .null ∈ [v, w]) :
    onNumbers function f [v, w]
      = nullUnless (refusals function [(0, .number), (1, .number)] [v, w]) := by
  have own : refusals function [(0, .number), (1, .number)] [v, w]
      = (Wanted.number.refusal? function 0 v).toList
        ++ (Wanted.number.refusal? function 1 w).toList := by
    cases first : Wanted.number.refusal? function 0 v <;>
      cases second : Wanted.number.refusal? function 1 w <;> simp [refusals, first, second]
  unfold onNumbers
  rw [numberArg_eq function (show [v, w][0]? = some v from rfl),
    numberArg_eq function (show [v, w][1]? = some w from rfl), own]
  cases Wanted.number.refusal? function 0 v with
  | some r => rfl
  | none =>
    cases Wanted.number.refusal? function 1 w with
    | some r => rfl
    | none =>
      -- both are taken, and one of them is the null
      rcases List.mem_pair.1 null with rfl | rfl
      · rfl
      · cases v.asFloat? <;> rfl

/-- `replace` takes every argument as a text. -/
theorem replace_of_null (null : .null ∈ [u, v, w]) : replace [u, v, w] = .ok .null := by
  unfold replace
  rw [textArg_head, show textArg "replace" [u, v, w] 1 = .ok v.text? from rfl,
    show textArg "replace" [u, v, w] 2 = .ok w.text? from rfl]
  simp only [List.mem_cons, List.not_mem_nil, or_false] at null
  rcases null with rfl | rfl | rfl
  · rfl
  · cases u.text? <;> rfl
  · cases u.text? <;> cases v.text? <;> rfl

/-- The arguments in front of the first null. -/
def inFront (args : List Value) : List Value := args.takeWhile fun v => !v.isNull

theorem inFront_cons_of_ne_null {args : List Value} (present : v ≠ .null) :
    inFront (v :: args) = v :: inFront args := by
  have kept : (!v.isNull) = true := by
    cases v with
    | null => exact absurd rfl present
    | _ => rfl
  exact List.takeWhile_cons_of_pos kept

/-- `round` looks at the places only for a number. -/
theorem round_of_null (null : .null ∈ [v, w]) :
    round [v, w]
      = nullUnless (refusals "round" [(0, .number), (1, .integer)] (inFront [v, w])) := by
  by_cases present : v = .null
  · rw [present]
    rfl
  · -- the number is there, so that the places are null
    have last : w = .null := (List.mem_pair.1 null).resolve_left (Ne.symm present) |>.symm
    subst last
    rw [inFront_cons_of_ne_null present]
    have read := numberArg_eq "round" (show [v, .null][0]? = some v from rfl)
    have own : refusals "round" [(0, .number), (1, .integer)] (v :: inFront [.null])
        = (Wanted.number.refusal? "round" 0 v).toList := by
      cases refused : Wanted.number.refusal? "round" 0 v <;>
        simp [refusals, refused, inFront, Value.isNull]
    unfold round
    rw [read, own]
    cases Wanted.number.refusal? "round" 0 v with
    | some r => rfl
    | none => cases v.asFloat? <;> rfl

/-- `substring` looks at the start only for a text, and at the length only for
a start. -/
theorem substring_of_null {rest : List Value} (single : rest.length ≤ 1)
    (null : .null ∈ u :: v :: rest) :
    substring (u :: v :: rest)
      = nullUnless
          (refusals "substring" [(1, .integer), (2, .integer)] (inFront (u :: v :: rest))) := by
  by_cases text : u = .null
  · rw [text]
    rfl
  · rw [inFront_cons_of_ne_null text]
    unfold substring
    rw [textArg_head, Value.text?_of_ne_null text]
    by_cases start : v = .null
    · rw [start]
      rfl
    · -- only the length is left to be null
      have last : rest = [.null] := by
        have behind : .null ∈ rest := by
          simpa [Ne.symm text, Ne.symm start] using null
        obtain ⟨w, rfl⟩ := List.length_eq_one_iff.1
          (Nat.le_antisymm single (List.length_pos_of_mem behind))
        rw [List.mem_singleton.1 behind]
      subst last
      rw [inFront_cons_of_ne_null start]
      have read := integerArg_eq "substring" (show [u, v, .null][1]? = some v from rfl)
      have own : refusals "substring" [(1, .integer), (2, .integer)] (u :: v :: inFront [.null])
          = (Wanted.integer.refusal? "substring" 1 v).toList := by
        cases refused : Wanted.integer.refusal? "substring" 1 v <;>
          simp [refusals, refused, inFront, Value.isNull]
      rw [read, own]
      cases Wanted.integer.refusal? "substring" 1 v with
      | some r => rfl
      | none => cases v.asInteger? <;> rfl

end Recordwise.Functions

namespace Recordwise.Builtin

open Functions (Wanted refusals nullUnless inFront)

/-! ## §4. Calls. -/

/-- The scalar functions that say nothing of null, so that a null argument is to
make their result null. -/
def IsStrict (b : Builtin) : Prop :=
  b.purpose ≠ .temporal ∧ b ≠ .concat ∧ b ≠ .coalesce ∧ b ≠ .ifNull

/-- The arguments, counted from zero, that a strict function wants to be
numbers; the others are taken as texts. -/
def demands : Builtin → List (Nat × Wanted)
  | substring => [(1, .integer), (2, .integer)]
  | abs | ceil | floor | toNumber => [(0, .number)]
  | round => [(0, .number), (1, .integer)]
  | modulo | power | min | max => [(0, .number), (1, .number)]
  | _ => []

/-- The arguments that a strict function looks at: all, or those in front of
the first null. -/
def lookedAt (b : Builtin) (args : List Value) : List Value :=
  match b with
  | substring | round => inFront args
  | _ => args

theorem eq_null_of_single {args : List Value}
    (accepted : (Arity.exactly 1).accepts args.length = true) (null : .null ∈ args) :
    args = [.null] := by
  obtain ⟨v, rfl⟩ := List.length_eq_one_iff.1 (Arity.accepts_exactly.1 accepted)
  rw [List.mem_singleton.1 null]

theorem onNumbers_of_null_mem {args : List Value} (function : String)
    (f : Float → Float → Except Failure Value)
    (accepted : (Arity.exactly 2).accepts args.length = true) (null : .null ∈ args) :
    Functions.onNumbers function f args
      = nullUnless (refusals function [(0, .number), (1, .number)] args) := by
  obtain ⟨v, w, rfl⟩ := List.length_eq_two.1 (Arity.accepts_exactly.1 accepted)
  exact Functions.onNumbers_of_null function f null

/-- **Every strict function, given a null argument, gives null or refuses an
argument.** -/
theorem apply_of_null_mem (ctx : Context) {b : Builtin} {args : List Value} (strict : b.IsStrict)
    (accepted : b.arity.accepts args.length = true) (null : .null ∈ args) :
    b.apply ctx args
      = Eval.ofExcept (nullUnless (refusals b.name b.demands (b.lookedAt args))) := by
  obtain ⟨scalar, notConcat, notCoalesce, notIfNull⟩ := strict
  cases b with
  | toDate | toDateBy | dateFormat | fromUnixtime | unixTimestamp | part =>
    exact absurd rfl scalar
  | concat => exact absurd rfl notConcat
  | coalesce => exact absurd rfl notCoalesce
  | ifNull => exact absurd rfl notIfNull
  -- one argument, which is the null
  | lower | upper | length | trim | toText | abs | ceil | floor | toNumber =>
    obtain rfl := eq_null_of_single accepted null
    rfl
  | modulo => exact congrArg Eval.ofExcept (onNumbers_of_null_mem "mod" _ accepted null)
  | power => exact congrArg Eval.ofExcept (onNumbers_of_null_mem "power" _ accepted null)
  | min => exact congrArg Eval.ofExcept (onNumbers_of_null_mem "min" _ accepted null)
  | max => exact congrArg Eval.ofExcept (onNumbers_of_null_mem "max" _ accepted null)
  | replace =>
    obtain ⟨u, v, w, rfl⟩ := List.length_eq_three.1 (Arity.accepts_exactly.1 accepted)
    exact congrArg Eval.ofExcept (Functions.replace_of_null null)
  | round =>
    obtain ⟨low, high⟩ := Arity.accepts_between.1 accepted
    match args, low, high with
    | [v], _, _ =>
      obtain rfl := List.mem_singleton.1 null
      rfl
    | [v, w], _, _ => exact congrArg Eval.ofExcept (Functions.round_of_null null)
  | substring =>
    obtain ⟨low, high⟩ := Arity.accepts_between.1 accepted
    match args, low, high with
    | u :: v :: rest, _, high =>
      exact congrArg Eval.ofExcept
        (Functions.substring_of_null (Nat.le_of_succ_le_succ (Nat.le_of_succ_le_succ high)) null)

/-- A strict function has no other overload. -/
theorem check_of_isStrict {b : Builtin} {count : Nat} (strict : b.IsStrict)
    (accepted : b.arity.accepts count = true) : check b.name count = .ok b := by
  have alone : overloads b.name = [b] := by
    obtain ⟨scalar, -⟩ := strict
    cases b with
    | toDate | toDateBy | dateFormat | fromUnixtime | unixTimestamp | part =>
      exact absurd rfl scalar
    | _ => decide
  rw [check_eq_ok]
  unfold lookup?
  rw [alone]
  exact List.find?_cons_of_pos accepted

/-- **A call with a null argument** gives null exactly when nothing that it
looks at is refused, and otherwise fails with the first refusal. -/
theorem call_of_null_mem (ctx : Context) {b : Builtin} {args : List Value} (strict : b.IsStrict)
    (accepted : b.arity.accepts args.length = true) (null : .null ∈ args) :
    (call ctx b.name args = pure .null ↔ ∀ i w v, (i, w) ∈ b.demands →
        (b.lookedAt args)[i]? = some v → w.isMetBy v = true)
      ∧ ∀ f, (refusals b.name b.demands (b.lookedAt args)).head? = some f →
          call ctx b.name args = Eval.fail f := by
  rw [call_of_check (check_of_isStrict strict accepted), apply_of_null_mem ctx strict accepted null,
    ← Functions.refusals_eq_nil_iff b.name]
  cases refusals b.name b.demands (b.lookedAt args) with
  | nil => exact ⟨⟨fun _ => rfl, fun _ => rfl⟩, fun f first => by cases first⟩
  | cons r rs =>
    refine ⟨⟨fun same => ?_, fun none => by cases none⟩, fun f first => by cases first; rfl⟩
    cases Eval.ofExcept_eq_pure_iff.1 same

theorem call_of_null_mem_text :
    (Builtin.min.IsStrict ∧ Builtin.min.arity.accepts 2 = true ∧ Value.null ∈ [.text "x", .null])
      ∧ call ⟨Zone.utc, []⟩ "min" [.text "x", .null]
          = Eval.fail (Functions.mismatch "min" 0 "numeric" (.text "x"))
      ∧ call ⟨Zone.utc, []⟩ "round" [.null, .text "x"] = pure .null := by
  have strict : Builtin.min.IsStrict := ⟨by decide, by decide, by decide, by decide⟩
  have strictRound : Builtin.round.IsStrict := ⟨by decide, by decide, by decide, by decide⟩
  have null : Value.null ∈ [.text "x", .null] := by simp
  have nullRound : Value.null ∈ [.null, .text "x"] := by simp
  refine ⟨⟨strict, by decide, null⟩, ?_, ?_⟩
  · exact (call_of_null_mem ⟨Zone.utc, []⟩ strict (by decide) null).2 _ rfl
  · refine (call_of_null_mem ⟨Zone.utc, []⟩ strictRound (by decide) nullRound).1.2 ?_
    -- nothing stands in front of the null
    intro i w v _ there
    cases there

/-- A text that is no number, in front of a null, is refused. -/
theorem not_call_null :
    ¬ ∀ (ctx : Context) (b : Builtin) (args : List Value), b.IsStrict →
        b.arity.accepts args.length = true → .null ∈ args →
        call ctx b.name args = pure .null := by
  intro null
  have strict : Builtin.min.IsStrict := ⟨by decide, by decide, by decide, by decide⟩
  have claimed := null ⟨Zone.utc, []⟩ .min [.text "x", .null] strict (by decide) (by simp)
  rw [call_of_check (check_of_isStrict strict (by decide)),
    apply_of_null_mem _ strict (by decide) (by simp), Eval.ofExcept_eq_pure_iff] at claimed
  cases claimed

end Recordwise.Builtin
