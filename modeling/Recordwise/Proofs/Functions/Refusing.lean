/-
  Recordwise.Proofs.Functions.Refusing
  ────────────────────────────────────
  **A function that is given enough arguments finds them all.**

  What a function may read is bounded by the fewest arguments of its arity: it
  looks further only after counting.  So a call with enough arguments fails
  only by refusing one of them.  Main statements:

      argument_failsWith — reading an argument that is there
      apply_failsWith    — every built-in function, given enough arguments
-/
import Recordwise.Builtin
import Recordwise.Proofs.Failure.FailsWith
import Recordwise.Proofs.Failure.Refusal

namespace Recordwise.Functions

open Calendar Failure

/-! ## §1. Arguments. -/

section Arguments

variable {args : List Value} {i : Nat}

theorem textArg_failsWith (function : String) (there : i < args.length) :
    FailsWith IsRefusal (textArg function args i) := by
  unfold textArg
  rw [List.getElem?_eq_getElem there]
  exact .ok _

theorem isRefusal_mismatch (function : String) (i : Nat) (wanted : String) (v : Value) :
    (mismatch function i wanted v).IsRefusal := by
  apply isRefusal_of_isClear
  repeat with_reducible apply IsClear.append
  decide

/-- **An argument that is there** is refused only for its kind. -/
theorem argument_failsWith {α : Type} (wanted : String) (read : Value → Option α)
    (function : String) (there : i < args.length) :
    FailsWith IsRefusal (argument wanted read function args i) := by
  unfold argument
  rw [List.getElem?_eq_getElem there]
  cases args[i] with
  | null => exact .ok none
  | _ =>
      dsimp only
      split
      · exact .ok _
      · exact .error (isRefusal_mismatch function i wanted _)

theorem instantOf_failsWith (function : String) (ctx : Context) (seconds : Int64) :
    FailsWith IsRefusal (instantOf function ctx seconds) := by
  unfold instantOf
  cases Instant.ofSeconds? seconds.toInt ctx.zone with
  | some i => exact .ok i
  | none =>
      apply FailsWith.error
      apply isRefusal_of_isClear
      repeat with_reducible apply IsClear.append
      decide

theorem instantArg_failsWith (function : String) (ctx : Context) (args : List Value) :
    FailsWith IsRefusal (instantArg function ctx args) := by
  unfold instantArg
  split
  · exact .ok none
  · exact .ok none
  · split
    · exact (instantOf_failsWith function ctx _).map some
    · apply FailsWith.error
      apply isRefusal_of_isClear
      repeat with_reducible apply IsClear.append
      decide

theorem patternArg_failsWith (function : String) (there : 1 < args.length) :
    FailsWith IsRefusal (patternArg function args) := by
  refine (textArg_failsWith function there).bind fun text? _ => ?_
  cases text? with
  | some source => exact .ok source
  | none => exact .error (isRefusal_of_isClear (by decide) function)

end Arguments

/-! ## §2. Dates and instants. -/

theorem readDefault_failsWith (function : String) (ctx : Context) (text : String) :
    FailsWith IsRefusal (readDefault function ctx text) := by
  unfold readDefault
  cases readDefault? ctx text with
  | some t => exact .ok t
  | none =>
      apply FailsWith.error
      apply isRefusal_of_isClear
      repeat with_reducible apply IsClear.append
      decide

/-- Every report of a text that a pattern does not read is clear. -/
theorem isClear_message (source text : String) (fault : DatePattern.ParseFault) :
    IsClear (fault.message source text) := by
  cases fault <;> unfold DatePattern.ParseFault.message <;>
    (repeat with_reducible apply IsClear.append) <;> decide

/-- Every report of a pattern that does not compile is clear. -/
theorem isClear_compileMessage (source : String) (fault : DatePattern.CompileFault) :
    IsClear (fault.message source) := by
  unfold DatePattern.CompileFault.message
  cases fault with
  | empty =>
      dsimp only
      decide
  | unterminatedQuote =>
      repeat with_reducible apply IsClear.append
      decide
  | unsupportedLetter c =>
      repeat with_reducible apply IsClear.append
      decide

theorem readWith_failsWith (function : String) (p : DatePattern) (text : String) :
    FailsWith IsRefusal (readWith function p text) := by
  unfold readWith
  dsimp only
  cases p.parse (Text.trimmed text) with
  | ok t => exact .ok t
  | error e => exact .error (isRefusal_of_isClear (isClear_message _ _ e) function)

theorem pattern_failsWith (function source : String) :
    (Eval.pattern function source).FailsWith IsRefusal := by
  intro cache f failed
  rw [Eval.runWith_pattern] at failed
  cases got : (cache.get source).1 with
  | ok p =>
      rw [got] at failed
      cases failed
  | error e =>
      rw [got] at failed
      cases failed
      exact isRefusal_of_isClear (isClear_compileMessage source e) function

theorem readBy_failsWith (function source text : String) :
    (readBy function source text).FailsWith IsRefusal :=
  (pattern_failsWith function source).bind fun p _ _ =>
    .ofExcept (readWith_failsWith function p text)

theorem renderInstant_failsWith (function : String) (p : DatePattern) (i : Instant) :
    (renderInstant function p i).FailsWith IsRefusal := by
  unfold renderInstant
  cases i.local? with
  | none => exact .offCalendar
  | some t =>
      dsimp only
      split
      · apply Eval.FailsWith.fail
        apply isRefusal_of_isClear
        repeat with_reducible apply IsClear.append
        decide
      · exact .pure _

theorem epochValue_failsWith (zone : Zone) (t : LocalTime) :
    FailsWith IsRefusal (epochValue zone t) := by
  unfold epochValue
  cases Instant.ofLocal? t zone with
  | some i => exact .ok _
  | none =>
      apply FailsWith.error
      apply isRefusal_of_isClear
      unfold Instant.skippedMessage
      repeat with_reducible apply IsClear.append
      decide

/-! ## §3. Functions. -/

section Functions

variable {ctx : Context} {args : List Value}

theorem toDate_failsWith (enough : 1 ≤ args.length) :
    FailsWith IsRefusal (toDate ctx args) := by
  refine (textArg_failsWith _ enough).bind fun text? _ => ?_
  cases text? with
  | none => exact .ok _
  | some text => exact (readDefault_failsWith _ ctx text).bind fun t _ => .ok _

theorem datePart_failsWith (part : DatePart) (enough : 1 ≤ args.length) :
    FailsWith IsRefusal (datePart part ctx args) := by
  refine (textArg_failsWith _ enough).bind fun text? _ => ?_
  cases text? with
  | none => exact .ok _
  | some text => exact (readDefault_failsWith _ ctx text).bind fun t _ => .ok _

theorem toDateBy_failsWith (enough : 2 ≤ args.length) : (toDateBy args).FailsWith IsRefusal := by
  have first : 0 < args.length := by omega
  refine (Eval.FailsWith.ofExcept (textArg_failsWith _ first)).bind fun text? _ _ => ?_
  cases text? with
  | none => exact .pure _
  | some text =>
      refine (Eval.FailsWith.ofExcept (patternArg_failsWith _ enough)).bind fun source _ _ => ?_
      exact (readBy_failsWith _ source text).bind fun t _ _ => .pure _

theorem dateFormat_failsWith (enough : 2 ≤ args.length) :
    (dateFormat ctx args).FailsWith IsRefusal := by
  refine (Eval.FailsWith.ofExcept (instantArg_failsWith _ ctx args)).bind fun instant? _ _ => ?_
  cases instant? with
  | none => exact .pure _
  | some i =>
      refine (Eval.FailsWith.ofExcept (patternArg_failsWith _ enough)).bind fun source _ _ => ?_
      exact (pattern_failsWith _ source).bind fun p _ _ => renderInstant_failsWith _ p i

theorem fromUnixtime_failsWith (enough : 1 ≤ args.length) :
    (fromUnixtime ctx args).FailsWith IsRefusal := by
  refine (Eval.FailsWith.ofExcept (argument_failsWith _ _ _ enough)).bind fun seconds? _ _ => ?_
  cases seconds? with
  | none => exact .pure _
  | some n =>
      refine (Eval.FailsWith.ofExcept (instantOf_failsWith _ ctx n)).bind fun i _ _ => ?_
      exact (pattern_failsWith _ standardPattern).bind fun p _ _ => renderInstant_failsWith _ p i

theorem localTimeArg_failsWith (text : String) :
    (localTimeArg ctx args text).FailsWith IsRefusal := by
  unfold localTimeArg
  -- the pattern is asked for only when there is one
  by_cases patterned : 1 < args.length
  · rw [if_pos patterned]
    exact (Eval.FailsWith.ofExcept (patternArg_failsWith _ patterned)).bind fun source _ _ =>
      readBy_failsWith _ source text
  · rw [if_neg patterned]
    exact .ofExcept (readDefault_failsWith _ ctx text)

theorem unixTimestamp_failsWith (enough : 1 ≤ args.length) :
    (unixTimestamp ctx args).FailsWith IsRefusal := by
  refine (Eval.FailsWith.ofExcept (textArg_failsWith _ enough)).bind fun text? _ _ => ?_
  cases text? with
  | none => exact .pure _
  | some text =>
      exact (localTimeArg_failsWith text).bind fun t _ _ =>
        .ofExcept (epochValue_failsWith ctx.zone t)

theorem onText_failsWith (function : String) (f : List Char → Value) (enough : 1 ≤ args.length) :
    FailsWith IsRefusal (onText function f args) :=
  (textArg_failsWith function enough).map _

theorem onNumber_failsWith (function : String) (f : Float → Value) (enough : 1 ≤ args.length) :
    FailsWith IsRefusal (onNumber function f args) :=
  (argument_failsWith _ _ function enough).map _

theorem onNumbers_failsWith (function : String) {f : Float → Float → Except Failure Value}
    (enough : 2 ≤ args.length) (hf : ∀ x y, FailsWith IsRefusal (f x y)) :
    FailsWith IsRefusal (onNumbers function f args) := by
  have first : 0 < args.length := by omega
  refine (argument_failsWith _ _ function first).bind fun x? _ => ?_
  refine (argument_failsWith _ _ function enough).bind fun y? _ => ?_
  cases x? with
  | none => exact .ok _
  | some x =>
      cases y? with
      | none => exact .ok _
      | some y => exact hf x y

theorem substring_failsWith (enough : 2 ≤ args.length) :
    FailsWith IsRefusal (substring args) := by
  have first : 0 < args.length := by omega
  refine (textArg_failsWith _ first).bind fun text? _ => ?_
  cases text? with
  | none => exact .ok _
  | some text =>
      refine (argument_failsWith _ _ _ enough).bind fun start? _ => ?_
      cases start? with
      | none => exact .ok _
      | some start =>
          -- a length is read only when there is one
          by_cases lengthened : 2 < args.length
          · simp only [lengthened, if_true]
            refine (argument_failsWith _ _ _ lengthened).bind fun len? _ => ?_
            cases len? with
            | none => exact .ok _
            | some len =>
                by_cases negative : len.toInt < 0
                · simp only [negative, if_true]
                  apply FailsWith.error
                  apply isRefusal_of_isClear
                  repeat with_reducible apply IsClear.append
                  decide
                · simp only [negative, if_false]
                  exact .ok _
          · simp only [lengthened, if_false]
            exact .ok _

theorem replace_failsWith (enough : 3 ≤ args.length) : FailsWith IsRefusal (replace args) := by
  have first : 0 < args.length := by omega
  have second : 1 < args.length := by omega
  refine (textArg_failsWith _ first).bind fun text? _ => ?_
  refine (textArg_failsWith _ second).bind fun pattern? _ => ?_
  refine (textArg_failsWith _ enough).bind fun new? _ => ?_
  split
  · split
    · exact .ok _
    · exact .ok _
  · exact .ok _

theorem abs_failsWith (enough : 1 ≤ args.length) : FailsWith IsRefusal (abs args) := by
  unfold abs
  split
  · exact .ok _
  · exact onNumber_failsWith _ _ enough

theorem round_failsWith (enough : 1 ≤ args.length) : FailsWith IsRefusal (round args) := by
  refine (argument_failsWith _ _ _ enough).bind fun x? _ => ?_
  cases x? with
  | none => exact .ok _
  | some x =>
      -- the places are read only when they are there
      by_cases placed : 1 < args.length
      · simp only [placed, if_true]
        refine (argument_failsWith _ _ _ placed).bind fun places? _ => ?_
        cases places? with
        | none => exact .ok _
        | some places => exact .ok _
      · simp only [placed, if_false]
        exact .ok _

theorem modulo_failsWith (enough : 2 ≤ args.length) : FailsWith IsRefusal (modulo args) := by
  refine onNumbers_failsWith _ enough fun x y => ?_
  by_cases zero : (y == 0.0) = true
  · rw [if_pos zero]
    exact .error (isRefusal_of_isClear (by decide) "mod")
  · rw [if_neg zero]
    exact .ok _

theorem ifNull_failsWith (args : List Value) : FailsWith IsRefusal (ifNull args) := by
  unfold ifNull
  split
  · exact .ok _
  · exact .ok _
  · exact .ok _
  · exact .ok _

theorem toNumber_failsWith (enough : 1 ≤ args.length) : FailsWith IsRefusal (toNumber args) := by
  unfold toNumber
  split
  · exact .ok _
  · exact .ok _
  · exact onNumber_failsWith _ _ enough

/-- **Every built-in function, given enough arguments, fails only by refusing
one of them.** -/
theorem apply_failsWith (b : Builtin) (enough : b.arity.least ≤ args.length) :
    (b.apply ctx args).FailsWith IsRefusal := by
  cases b with
  | toDate => exact .ofExcept (toDate_failsWith enough)
  | toDateBy => exact toDateBy_failsWith enough
  | dateFormat => exact dateFormat_failsWith enough
  | fromUnixtime => exact fromUnixtime_failsWith enough
  | unixTimestamp => exact unixTimestamp_failsWith enough
  | part p => exact .ofExcept (datePart_failsWith p enough)
  | concat => exact .ofExcept (.ok _)
  | lower => exact .ofExcept (onText_failsWith _ _ enough)
  | upper => exact .ofExcept (onText_failsWith _ _ enough)
  | length => exact .ofExcept (onText_failsWith _ _ enough)
  | trim => exact .ofExcept (onText_failsWith _ _ enough)
  | substring => exact .ofExcept (substring_failsWith enough)
  | replace => exact .ofExcept (replace_failsWith enough)
  | abs => exact .ofExcept (abs_failsWith enough)
  | round => exact .ofExcept (round_failsWith enough)
  | ceil => exact .ofExcept (onNumber_failsWith _ _ enough)
  | floor => exact .ofExcept (onNumber_failsWith _ _ enough)
  | modulo => exact .ofExcept (modulo_failsWith enough)
  | power => exact .ofExcept (onNumbers_failsWith _ enough fun x y => .ok _)
  | min => exact .ofExcept (onNumbers_failsWith _ enough fun x y => .ok _)
  | max => exact .ofExcept (onNumbers_failsWith _ enough fun x y => .ok _)
  | coalesce => exact .ofExcept (.ok _)
  | ifNull => exact .ofExcept (ifNull_failsWith args)
  | toText => exact .ofExcept (onText_failsWith _ _ enough)
  | toNumber => exact .ofExcept (toNumber_failsWith enough)

end Functions

end Recordwise.Functions
