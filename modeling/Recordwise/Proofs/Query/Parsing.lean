/-
  Recordwise.Proofs.Query.Parsing
  ───────────────────────────────
  **Tokens that the lexemes allow are those of what was written.**

  A list of lexemes fixes its tokens up to the spelling of words.  Part by
  part, the tokens that the lexemes of a printable expression, condition or
  statement allow are tokens of just that in the grammar.  Main statements:

      isExpr_of_writes      — the tokens of an expression
      isFactor_of_writes    — the tokens of a condition
      isStatement_of_writes — the tokens of a statement
-/
import Recordwise.Proofs.Query.Grammar
import Recordwise.Proofs.Query.Lexing

namespace Recordwise.Query

open List (Forall₂)

/-- Whether tokens write lexemes, one for each. -/
abbrev Writes (ls : List Lexeme) (ts : List Token) : Prop := Forall₂ Lexeme.Allows ls ts

/-! ## §1. The tokens of parts. -/

theorem writes_append {ls ms : List Lexeme} {ts : List Token} (h : Writes (ls ++ ms) ts) :
    ∃ us vs, ts = us ++ vs ∧ Writes ls us ∧ Writes ms vs := by
  induction ls generalizing ts with
  | nil => exact ⟨[], ts, rfl, .nil, h⟩
  | cons l ls ih =>
      cases h with
      | @cons _ t _ ts allowed rest =>
          obtain ⟨us, vs, rfl, left, right⟩ := ih rest
          exact ⟨t :: us, vs, rfl, .cons allowed left, right⟩

theorem writes_exact {t : Token} {ls : List Lexeme} {ts : List Token}
    (h : Writes (.exact t :: ls) ts) : ∃ us, ts = t :: us ∧ Writes ls us := by
  cases h with
  | @cons _ u _ us allowed rest =>
      have same : u = t := allowed
      rw [same]
      exact ⟨us, rfl, rest⟩

/-- A word that may be written in any letter case is that word. -/
theorem writes_anyCase {w : String} {ls : List Lexeme} {ts : List Token}
    (h : Writes (.anyCase w :: ls) ts) :
    ∃ v us, ts = .word v :: us ∧ isWord w v = true ∧ Writes ls us := by
  cases h with
  | @cons _ u _ us allowed rest =>
      obtain ⟨v, rfl, lowered⟩ := allowed
      exact ⟨v, us, rfl, beq_iff_eq.2 lowered, rest⟩

theorem writes_nil {ts : List Token} (h : Writes [] ts) : ts = [] := by
  cases h
  rfl

/-- **Parts with commas between them are listed**, if the tokens of each are
tokens of the part. -/
theorem areListed_of_writes {α : Type} {lexemes : α → List Lexeme} {P : List Token → α → Prop}
    {xs : List α} (each : ∀ x ∈ xs, ∀ {ts : List Token}, Writes (lexemes x) ts → P ts x)
    {ts : List Token} (w : Writes (separated (xs.map lexemes)) ts) : AreListed P ts xs := by
  induction xs generalizing ts with
  | nil =>
      rw [writes_nil w]
      exact .nil
  | cons x xs ih =>
      have first {ts : List Token} (w : Writes (lexemes x) ts) : P ts x :=
        each x List.mem_cons_self w
      cases xs with
      | nil => exact .single (first w)
      | cons y ys =>
          obtain ⟨us, vs, rfl, here, behind⟩ := writes_append w
          obtain ⟨vs', rfl, later⟩ := writes_exact behind
          exact .cons (first here) (ih (fun z hz => each z (List.mem_cons_of_mem x hz)) later)

/-! ## §2. Words. -/

/-- A spelling of a function's name is no keyword. -/
theorem isFunctionName_spelling {f v : String} (h : isFunctionName f = true)
    (same : isWord f v = true) : isKeyword v = false ∧ Text.asciiLowered v = f := by
  obtain ⟨identifier, folded⟩ := Bool.and_eq_true_iff.1 h
  have lowered : Text.asciiLowered v = f := beq_iff_eq.1 same
  have free : isKeyword f = false := (isIdentifier_eq_true identifier).2
  unfold isKeyword at free ⊢
  rw [beq_iff_eq.1 folded] at free
  rw [lowered]
  exact ⟨free, rfl⟩

/-- A spelling of a keyword stands for the same value. -/
theorem keywordValue?_of_isWord {k w : String} (h : isWord k w = true)
    (folded : Text.asciiLowered k = k) : keywordValue? w = keywordValue? k := by
  have same : Text.asciiLowered w = Text.asciiLowered k := (beq_iff_eq.1 h).trans folded.symm
  unfold keywordValue? isWord
  rw [same]

/-! ## §3. Expressions. -/

/-- The tokens of a literal: null and the truth values are keywords, the
others are tokens of their own. -/
theorem isExpr_of_writes_literal {v : Value} {ts : List Token}
    (w : Writes (Expr.literal v).lexemes ts) : IsExpr ts (.literal v) := by
  have keyword {k : String} (w : Writes [.anyCase k] ts) (value : keywordValue? k = some v)
      (folded : Text.asciiLowered k = k) : IsExpr ts (.literal v) := by
    obtain ⟨spelling, us, rfl, same, nothing⟩ := writes_anyCase w
    rw [writes_nil nothing]
    exact .keyword ((keywordValue?_of_isWord same folded).trans value)
  have plain (w : Writes [.exact (.literal v)] ts) : IsExpr ts (.literal v) := by
    obtain ⟨us, rfl, nothing⟩ := writes_exact w
    rw [writes_nil nothing]
    exact .literal v
  cases v with
  | null => exact keyword w (by decide) (by decide)
  | boolean b => cases b <;> exact keyword w (by decide) (by decide)
  | integer n => exact plain w
  | float x => exact plain w
  | text s => exact plain w

/-- **The tokens of an expression.** -/
theorem isExpr_of_writes {e : Expr} (h : e.isPrintable = true) {ts : List Token}
    (w : Writes e.lexemes ts) : IsExpr ts e := by
  induction e using Expr.induction_args generalizing ts with
  | literal v => exact isExpr_of_writes_literal w
  | column c =>
      obtain ⟨us, rfl, nothing⟩ := writes_exact w
      rw [writes_nil nothing]
      exact .column (isIdentifier_eq_true h).2
  | parameter p =>
      obtain ⟨us, rfl, nothing⟩ := writes_exact w
      rw [writes_nil nothing]
      exact .parameter p
  | call function args ih =>
      obtain ⟨named, printable⟩ := Bool.and_eq_true_iff.1 h
      rw [Expr.arePrintable_eq_all, List.all_eq_true] at printable
      unfold Expr.lexemes at w
      rw [Expr.lexemesOf_eq_map] at w
      obtain ⟨spelling, ts₁, rfl, same, w₁⟩ := writes_anyCase w
      obtain ⟨ts₂, rfl, w₂⟩ := writes_exact w₁
      obtain ⟨us, ts₃, rfl, inside, w₃⟩ := writes_append w₂
      obtain ⟨ts₄, rfl, nothing⟩ := writes_exact w₃
      obtain ⟨free, lowered⟩ := isFunctionName_spelling named same
      rw [writes_nil nothing, ← lowered]
      exact .call_of_areListed free
        (areListed_of_writes (fun a ha _ w => ih a ha (printable a ha) w) inside)

/-! ## §4. Conditions. -/

/-- Two factors in parentheses with a word between them. -/
theorem exists_of_writes_pair {l r : Condition} {k : String}
    (hl : ∀ {ts : List Token}, Writes l.lexemes ts → IsFactor ts l)
    (hr : ∀ {ts : List Token}, Writes r.lexemes ts → IsFactor ts r) {ts : List Token}
    (w : Writes
      (.exact .opening :: (l.lexemes ++ .anyCase k :: (r.lexemes ++ [.exact .closing]))) ts) :
    ∃ us v vs, ts = .opening :: (us ++ .word v :: vs ++ [.closing]) ∧ isWord k v = true ∧
      IsFactor us l ∧ IsFactor vs r := by
  obtain ⟨ts₁, rfl, w₁⟩ := writes_exact w
  obtain ⟨us, ts₂, rfl, left, w₂⟩ := writes_append w₁
  obtain ⟨v, ts₃, rfl, same, w₃⟩ := writes_anyCase w₂
  obtain ⟨vs, ts₄, rfl, right, w₄⟩ := writes_append w₃
  obtain ⟨ts₅, rfl, nothing⟩ := writes_exact w₄
  rw [writes_nil nothing]
  exact ⟨us, v, vs, by simp, same, hl left, hr right⟩

/-- **The tokens of a condition** are those of a factor. -/
theorem isFactor_of_writes {c : Condition} (h : ∀ e ∈ c.expressions, e.isPrintable = true)
    {ts : List Token} (w : Writes c.lexemes ts) : IsFactor ts c := by
  induction c generalizing ts with
  | compare l op r =>
      obtain ⟨us, ts₁, rfl, left, w₁⟩ := writes_append w
      obtain ⟨vs, rfl, right⟩ := writes_exact w₁
      have hl := isExpr_of_writes (h l (by simp [Condition.expressions])) left
      have hr := isExpr_of_writes (h r (by simp [Condition.expressions])) right
      exact .test (.compare hl op hr)
  | isNull e negated =>
      have he := h e (by simp [Condition.expressions])
      cases negated with
      | true =>
          obtain ⟨us, ts₁, rfl, operand, w₁⟩ := writes_append w
          obtain ⟨is_, ts₂, rfl, hi, w₂⟩ := writes_anyCase w₁
          obtain ⟨not_, ts₃, rfl, ho, w₃⟩ := writes_anyCase w₂
          obtain ⟨null_, ts₄, rfl, hn, nothing⟩ := writes_anyCase w₃
          rw [writes_nil nothing]
          exact .test (.isNotNull (isExpr_of_writes he operand) hi ho hn)
      | false =>
          obtain ⟨us, ts₁, rfl, operand, w₁⟩ := writes_append w
          obtain ⟨is_, ts₂, rfl, hi, w₂⟩ := writes_anyCase w₁
          obtain ⟨null_, ts₃, rfl, hn, nothing⟩ := writes_anyCase w₂
          rw [writes_nil nothing]
          exact .test (.isNull (isExpr_of_writes he operand) hi hn)
  | and l r hl hr =>
      obtain ⟨us, v, vs, rfl, same, left, right⟩ := exists_of_writes_pair
        (hl fun e he => h e (List.mem_append_left _ he))
        (hr fun e he => h e (List.mem_append_right _ he)) w
      exact .group (.last (.cons left same (.last right)))
  | or l r hl hr =>
      obtain ⟨us, v, vs, rfl, same, left, right⟩ := exists_of_writes_pair
        (hl fun e he => h e (List.mem_append_left _ he))
        (hr fun e he => h e (List.mem_append_right _ he)) w
      exact .group (.cons (.last left) same (.last (.last right)))
  | not c hc =>
      obtain ⟨not_, ts₁, rfl, negation, w₁⟩ := writes_anyCase w
      obtain ⟨ts₂, rfl, w₂⟩ := writes_exact w₁
      obtain ⟨us, ts₃, rfl, inside, w₃⟩ := writes_append w₂
      obtain ⟨ts₄, rfl, nothing⟩ := writes_exact w₃
      rw [writes_nil nothing]
      exact .not negation (.group (.last (.last (hc h inside))))

/-! ## §5. Statements. -/

/-- The tokens of an entry of a select list. -/
theorem isItem_of_writes {i : Item} (h : i.isPrintable = true) {ts : List Token}
    (w : Writes i.lexemes ts) : IsItem ts i := by
  obtain ⟨e, alias?⟩ := i
  obtain ⟨printable, named⟩ := Bool.and_eq_true_iff.1 h
  cases alias? with
  | none => exact .unnamed (isExpr_of_writes printable w)
  | some label =>
      obtain ⟨us, ts₁, rfl, operand, w₁⟩ := writes_append w
      obtain ⟨as_, ts₂, rfl, same, w₂⟩ := writes_anyCase w₁
      obtain ⟨ts₃, rfl, nothing⟩ := writes_exact w₂
      rw [writes_nil nothing]
      exact .named (isExpr_of_writes printable operand) same (.word (isIdentifier_eq_true named).2)

/-- The tokens of an optional condition. -/
theorem isFilter_of_writes {c? : Option Condition} (h : c?.all Condition.isPrintable = true)
    {ts : List Token} (w : Writes (filterLexemes c?) ts) : IsFilter ts c? := by
  cases c? with
  | none =>
      rw [writes_nil w]
      exact .absent
  | some c =>
      obtain ⟨where_, us, rfl, same, w₁⟩ := writes_anyCase w
      exact .present same (.last (.last (isFactor_of_writes (List.all_eq_true.1 h) w₁)))

/-- **The tokens of a statement.** -/
theorem isStatement_of_writes {s : Statement} (h : s.isPrintable = true) {ts : List Token}
    (w : Writes s.lexemes ts) : IsStatement ts s := by
  unfold Statement.isPrintable at h
  rw [Bool.and_eq_true, Bool.and_eq_true, Bool.and_eq_true, List.all_eq_true] at h
  obtain ⟨⟨⟨ne, printable⟩, source⟩, filter⟩ := h
  obtain ⟨select_, ts₁, rfl, select, w₁⟩ := writes_anyCase w
  obtain ⟨us, ts₂, rfl, list, w₂⟩ := writes_append w₁
  obtain ⟨from_, ts₃, rfl, same, w₃⟩ := writes_anyCase w₂
  obtain ⟨vs, rfl, condition⟩ := writes_exact w₃
  have nonempty : s.items ≠ [] := by
    intro none
    rw [none] at ne
    exact absurd ne (by decide)
  exact .mk select
    (areListed_of_writes (fun i hi _ w => isItem_of_writes (printable i hi) w) list) nonempty same
    (.word (isIdentifier_eq_true source).2) (isFilter_of_writes filter condition)

end Recordwise.Query
