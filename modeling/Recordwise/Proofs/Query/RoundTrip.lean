/-
  Recordwise.Proofs.Query.RoundTrip
  ─────────────────────────────────
  **Statements are read back from every layout of their text.**

  The text that the printer writes is one of the layouts of a statement.
  Every layout is read as tokens that the lexemes allow, and such tokens are
  parsed to the statement.  Main statements:

      isLayout_render         — the printed text is a layout
      parseStatement_isLayout — every layout is parsed to the statement
-/
import Recordwise.Proofs.Query.Accepting
import Recordwise.Proofs.Query.Parsing
import Recordwise.Query.Diagnosis

namespace Recordwise.Query

/-! ## §1. The printed text is a layout. -/

/-- Whether no word goes on into a text. -/
def IsFree (cs : List Char) : Prop := ∀ d, cs.head? = some d → isWordPart d = false

theorem isFree_cons {c : Char} (h : isWordPart c = false) (cs : List Char) : IsFree (c :: cs) := by
  intro d hd
  rw [← Option.some.inj hd]
  exact h

/-- One lexeme in front of a layout that it does not run into. -/
theorem Layout.cons_free {l : Lexeme} {t : Token} {ls : List Lexeme} {cs : List Char}
    (allowed : l.Allows t) (free : IsFree cs) (rest : Layout ls cs) :
    Layout (l :: ls) (t.text.toList ++ cs) := by
  show Layout (l :: ls) ([] ++ (t.text.toList ++ cs))
  refine .cons rfl allowed ?_ rest
  unfold joins
  split
  · rename_i c d _ hd
    rw [free d hd, Bool.and_false]
  · rfl

/-- A lexeme that ends with a sign in front of a layout. -/
theorem Layout.cons_sign {l : Lexeme} {t : Token} {ls : List Lexeme} {cs : List Char}
    (allowed : l.Allows t) (sign : t.text.toList.getLast?.any isWordPart = false)
    (rest : Layout ls cs) : Layout (l :: ls) (t.text.toList ++ cs) := by
  show Layout (l :: ls) ([] ++ (t.text.toList ++ cs))
  refine .cons rfl allowed ?_ rest
  unfold joins
  split
  · rename_i c d hc _
    have ends : isWordPart c = false := by
      rw [hc] at sign
      exact sign
    rw [ends, Bool.false_and]
  · rfl

/-- A separator in front of a layout. -/
theorem Layout.blank {ls : List Lexeme} {cs : List Char} (h : Layout ls cs) {c : Char}
    (separator : isSeparator c = true) : Layout ls (c :: cs) := by
  cases h with
  | nil blank => exact .nil (by rw [List.all_cons, separator, blank]; rfl)
  | @cons gap l t ls cs blank allowed apart rest =>
      rw [← List.cons_append]
      exact .cons (by rw [List.all_cons, separator, blank]; rfl) allowed apart rest

theorem Layout.space {ls : List Lexeme} {cs : List Char} (h : Layout ls cs) :
    Layout ls (' ' :: cs) :=
  h.blank (by decide)

/-- A word in some letter case with a space in front of it. -/
theorem Layout.cons_spelled (w spelling : String) (folded : Text.asciiLowered spelling = w)
    {ls : List Lexeme} {cs : List Char} (free : IsFree cs) (rest : Layout ls cs) :
    Layout (.anyCase w :: ls) (' ' :: (spelling.toList ++ cs)) :=
  (rest.cons_free (l := .anyCase w) (t := .word spelling) ⟨spelling, rfl, folded⟩ free).space

/-- A word in lower case with a space in front of it. -/
theorem Layout.cons_word {w : String} (folded : Text.asciiLowered w = w) {ls : List Lexeme}
    {cs : List Char} (free : IsFree cs) (rest : Layout ls cs) :
    Layout (.anyCase w :: ls) (' ' :: (w.toList ++ cs)) :=
  rest.cons_spelled w w folded free

/-- A name with a space in front of it. -/
theorem Layout.cons_name (name : String) {ls : List Lexeme} {cs : List Char} (free : IsFree cs)
    (rest : Layout ls cs) : Layout (.exact (.word name) :: ls) (' ' :: (name.toList ++ cs)) :=
  (rest.cons_free (l := .exact (.word name)) (t := .word name) rfl free).space

/-- A parenthesis in front of a layout. -/
theorem Layout.cons_opening {ls : List Lexeme} {cs : List Char} (rest : Layout ls cs) :
    Layout (.exact .opening :: ls) ('(' :: cs) :=
  rest.cons_sign (l := .exact .opening) (t := .opening) rfl (by decide)

/-- A closing parenthesis in front of a layout. -/
theorem Layout.cons_closing {ls : List Lexeme} {cs : List Char} (rest : Layout ls cs) :
    Layout (.exact .closing :: ls) (')' :: cs) :=
  rest.cons_sign (l := .exact .closing) (t := .closing) rfl (by decide)

/-- Whether a text may stand for lexemes in front of any layout that no word
goes on into. -/
def Prints (ls : List Lexeme) (text : String) : Prop :=
  ∀ (ms : List Lexeme) (cs : List Char), IsFree cs → Layout ms cs →
    Layout (ls ++ ms) (text.toList ++ cs)

theorem prints_token {l : Lexeme} {t : Token} (allowed : l.Allows t) : Prints [l] t.text := by
  intro ms cs free rest
  exact rest.cons_free allowed free

/-- A text in front of a space. -/
theorem Prints.space {ls ms : List Lexeme} {text : String} {cs : List Char} (h : Prints ls text)
    (rest : Layout ms cs) : Layout (ls ++ ms) (text.toList ++ ' ' :: cs) :=
  h ms _ (isFree_cons (by decide) cs) rest.space

/-- Texts with commas and spaces between them. -/
theorem prints_separated {α : Type} {lexemes : α → List Lexeme} {render : α → String} {xs : List α}
    (h : ∀ x ∈ xs, Prints (lexemes x) (render x)) :
    Prints (separated (xs.map lexemes)) (String.intercalate ", " (xs.map render)) := by
  induction xs with
  | nil =>
      intro ms cs free rest
      rw [List.map_nil, List.map_nil, String.intercalate_nil]
      exact rest
  | cons x xs ih =>
      have first := h x List.mem_cons_self
      have others := ih fun y hy => h y (List.mem_cons_of_mem x hy)
      intro ms cs free rest
      cases xs with
      | nil =>
          rw [List.map_singleton, List.map_singleton, String.intercalate_singleton]
          exact first ms cs free rest
      | cons y ys =>
          have behind := others ms cs free rest
          have comma : Layout (.exact .comma :: (separated ((y :: ys).map lexemes) ++ ms))
              (',' :: ' ' :: ((String.intercalate ", " ((y :: ys).map render)).toList ++ cs)) :=
            behind.space.cons_free (t := .comma) rfl (isFree_cons (by decide) _)
          have whole := first _ _ (isFree_cons (by decide) _) comma
          simp only [List.map_cons, String.intercalate_cons_cons, String.toList_append,
            List.append_assoc, separated, List.cons_append] at whole ⊢
          exact whole

theorem prints_literal (v : Value) : Prints [literalLexeme v] (renderLiteral v) := by
  have keyword {k : String} (folded : Text.asciiLowered k = k) : Prints [.anyCase k] k :=
    prints_token (l := .anyCase k) (t := .word k) ⟨k, rfl, folded⟩
  have plain (v : Value) : Prints [.exact (.literal v)] (renderLiteral v) :=
    prints_token (l := .exact (.literal v)) (t := .literal v) rfl
  cases v with
  | null => exact keyword (by decide)
  | boolean b => cases b <;> exact keyword (by decide)
  | integer n => exact plain (.integer n)
  | float x => exact plain (.float x)
  | text s => exact plain (.text s)

/-- The text of an expression. -/
theorem prints_expr {e : Expr} (h : e.isPrintable = true) : Prints e.lexemes e.render := by
  induction e using Expr.induction_args with
  | literal v => exact prints_literal v
  | column name => exact prints_token (l := .exact (.word name)) (t := .word name) rfl
  | parameter name => exact prints_token (l := .exact (.parameter name)) (t := .parameter name) rfl
  | call function args ih =>
      obtain ⟨named, printable⟩ := Bool.and_eq_true_iff.1 h
      rw [Expr.arePrintable_eq_all, List.all_eq_true] at printable
      have folded : Text.asciiLowered function = function :=
        beq_iff_eq.1 (Bool.and_eq_true_iff.1 named).2
      have inside := prints_separated fun a ha => ih a ha (printable a ha)
      intro ms cs free rest
      have arguments := inside _ _ (isFree_cons (by decide) cs) rest.cons_closing
      have whole := arguments.cons_opening.cons_free (l := .anyCase function)
        (t := .word function) ⟨function, rfl, folded⟩ (isFree_cons (by decide) _)
      unfold Expr.lexemes Expr.render
      rw [Expr.lexemesOf_eq_map, Expr.renderArgs_eq_intercalate]
      simp only [String.toList_append, List.append_assoc, List.cons_append, List.nil_append]
      exact whole

/-- Two texts in parentheses with a word between them. -/
theorem prints_pair {ls ms : List Lexeme} {a b w : String} (folded : Text.asciiLowered w = w)
    (left : Prints ls a) (right : Prints ms b) :
    Prints (.exact .opening :: (ls ++ .anyCase w :: (ms ++ [.exact .closing])))
      ("(" ++ a ++ (" " ++ w ++ " ") ++ b ++ ")") := by
  intro ns cs free rest
  have second := right _ _ (isFree_cons (by decide) cs) rest.cons_closing
  have word := second.space.cons_word folded (isFree_cons (by decide) _)
  have whole := (left _ _ (isFree_cons (by decide) _) word).cons_opening
  simp only [String.toList_append, List.append_assoc, List.cons_append, List.nil_append]
  exact whole

/-- The text of a condition. -/
theorem prints_condition {c : Condition} (h : ∀ e ∈ c.expressions, e.isPrintable = true) :
    Prints c.lexemes c.render := by
  induction c with
  | compare l op r =>
      have left := prints_expr (h l (by simp [Condition.expressions]))
      have right := prints_expr (h r (by simp [Condition.expressions]))
      intro ms cs free rest
      have second := (right ms cs free rest).space
      have sign := second.cons_free (l := .exact (.comparison op)) (t := .comparison op) rfl
        (isFree_cons (by decide) _)
      have whole := left.space sign
      unfold Condition.lexemes Condition.render
      simp only [String.toList_append, List.append_assoc, List.cons_append]
      exact whole
  | isNull e negated =>
      have operand := prints_expr (h e (by simp [Condition.expressions]))
      intro ms cs free rest
      have null := rest.cons_word (w := "null") (by decide) free
      cases negated with
      | true =>
          have not' := null.cons_word (w := "not") (by decide) (isFree_cons (by decide) _)
          have is' := not'.cons_word (w := "is") (by decide) (isFree_cons (by decide) _)
          have whole := operand _ _ (isFree_cons (by decide) _) is'
          unfold Condition.lexemes Condition.render
          simp only [String.toList_append, List.append_assoc, List.cons_append]
          exact whole
      | false =>
          have is' := null.cons_word (w := "is") (by decide) (isFree_cons (by decide) _)
          have whole := operand _ _ (isFree_cons (by decide) _) is'
          unfold Condition.lexemes Condition.render
          simp only [String.toList_append, List.append_assoc, List.cons_append]
          exact whole
  | and l r hl hr =>
      have left := hl fun e he => h e (List.mem_append_left _ he)
      have right := hr fun e he => h e (List.mem_append_right _ he)
      exact prints_pair (w := "and") (by decide) left right
  | or l r hl hr =>
      have left := hl fun e he => h e (List.mem_append_left _ he)
      have right := hr fun e he => h e (List.mem_append_right _ he)
      exact prints_pair (w := "or") (by decide) left right
  | not c hc =>
      intro ms cs free rest
      have inside := hc h _ _ (isFree_cons (by decide) cs) rest.cons_closing
      have whole := inside.cons_opening.space.cons_free (l := .anyCase "not") (t := .word "not")
        ⟨"not", rfl, by decide⟩ (isFree_cons (by decide) _)
      unfold Condition.lexemes Condition.render
      simp only [String.toList_append, List.append_assoc, List.cons_append]
      exact whole

/-- The text of an entry of a select list. -/
theorem prints_item {i : Item} (h : i.isPrintable = true) : Prints i.lexemes i.render := by
  have operand := prints_expr (Bool.and_eq_true_iff.1 h).1
  unfold Item.lexemes Item.render
  cases i.alias? with
  | none => exact operand
  | some name =>
      intro ms cs free rest
      have label := rest.cons_name name free
      have as' := label.cons_word (w := "as") (by decide) (isFree_cons (by decide) _)
      have whole := operand _ _ (isFree_cons (by decide) _) as'
      simp only [String.toList_append, List.append_assoc, List.cons_append]
      exact whole

/-- **The text that the printer writes is a layout.** -/
theorem isLayout_render {s : Statement} (h : s.isPrintable = true) : s.IsLayout s.render := by
  unfold Statement.isPrintable at h
  rw [Bool.and_eq_true, Bool.and_eq_true, Bool.and_eq_true, List.all_eq_true] at h
  obtain ⟨⟨⟨-, items⟩, -⟩, filter⟩ := h
  left
  have list := prints_separated fun i hi => prints_item (items i hi)
  -- what stands behind the name of the source
  have tail (text : List Char) (free : IsFree text)
      (behind : Layout (filterLexemes s.condition?) text) :
      Layout s.lexemes ("select ".toList ++ ((String.intercalate ", "
        (s.items.map Item.render)).toList ++ (" from ".toList ++ (s.source.toList ++ text)))) := by
    have source := behind.cons_name s.source free
    have from' := source.cons_word (w := "from") (by decide) (isFree_cons (by decide) _)
    have listed := list _ _ (isFree_cons (by decide) _) from'
    exact listed.space.cons_free (l := .anyCase "select") (t := .word "select")
      ⟨"select", rfl, by decide⟩ (isFree_cons (by decide) _)
  unfold Statement.render
  cases filtered : s.condition? with
  | none =>
      rw [filtered] at tail
      have whole := tail [] (fun d hd => absurd hd (by simp)) (.nil rfl)
      simp only [String.toList_append, List.append_assoc]
      exact whole
  | some c =>
      rw [filtered] at tail filter
      have condition := prints_condition (List.all_eq_true.1 filter) [] []
        (fun d hd => absurd hd (by simp)) (.nil rfl)
      have where' := condition.space.cons_word (w := "where") (by decide)
        (isFree_cons (by decide) _)
      rw [List.append_nil, List.append_nil] at where'
      have whole := tail _ (isFree_cons (by decide) _) where'
      simp only [String.toList_append, List.append_assoc]
      exact whole

/-! ## §2. Every layout is read back. -/

theorem ofText?_of_layout {s : Statement} (h : s.isPrintable = true) {ls : List Lexeme}
    {cs : List Char} (ends : ls = s.lexemes ∨ ls = s.lexemes ++ [.exact .semicolon])
    (layout : Layout ls cs) : Statement.ofText? cs = some s := by
  obtain ⟨plain, plainSemicolon⟩ := readable_statement h
  have readable : Readable ls := by
    rcases ends with rfl | rfl
    · exact plain
    · exact plainSemicolon
  obtain ⟨ts, written, read⟩ := tokens?_of_layout layout readable.plain readable.meet
  refine Statement.ofText?_eq_some_iff.2 ?_
  rcases ends with rfl | rfl
  · exact ⟨ts, [], by rw [read, List.append_nil], isStatement_of_writes h written, .inl rfl⟩
  · obtain ⟨us, vs, rfl, whole, last⟩ := writes_append written
    obtain ⟨ws, rfl, nothing⟩ := writes_exact last
    rw [writes_nil nothing] at read
    exact ⟨us, _, read, isStatement_of_writes h whole, .inr rfl⟩

/-- **Statements are read back.**  Every layout of a printable statement is
parsed to that statement, the text that the printer writes among them. -/
theorem parseStatement_isLayout {s : Statement} (h : s.isPrintable = true) :
    (∀ text, s.IsLayout text → parseStatement text = .ok s) ∧ parseStatement s.render = .ok s := by
  have every : ∀ text, s.IsLayout text → parseStatement text = .ok s := by
    intro text layout
    have read : Statement.ofText? text.toList = some s := by
      rcases layout with layout | layout
      · exact ofText?_of_layout h (.inl rfl) layout
      · exact ofText?_of_layout h (.inr rfl) layout
    unfold parseStatement
    rw [read]
  exact ⟨every, every s.render (isLayout_render h)⟩

/-- A call in a call and a filter, in mixed case and without blanks where none
are needed, and as they are printed. -/
theorem parseStatement_isLayout_nested :
    ∃ s : Statement, s.items =
        [⟨.call "concat" [.call "upper" [.column "a"], .literal (.text "it's")], some "x"⟩] ∧
      s.source = "t" ∧ s.condition? = some (.and
        (.compare (.column "a") .equal (.literal (.integer 1))) (.isNull (.column "b") true)) ∧
      s.isPrintable = true ∧
      parseStatement "SELECT\tConcat(Upper(a),'it''s')AS x FROM t WHERE(a=1 AND b IS NOT NULL);" =
        .ok s ∧
      parseStatement
        "select concat(upper(a), 'it''s') as x from t where (a = 1 and b is not null)" = .ok s := by
  have printable : Statement.isPrintable
      ⟨[⟨.call "concat" [.call "upper" [.column "a"], .literal (.text "it's")], some "x"⟩], "t",
        some (.and (.compare (.column "a") .equal (.literal (.integer 1)))
          (.isNull (.column "b") true))⟩ = true := by decide
  have free {c : Char} {cs : List Char} (h : isWordPart c = false) : IsFree (c :: cs) :=
    isFree_cons h cs
  -- the layout is put together from its end, first the condition
  have semicolon : Layout [.exact .semicolon] [';'] :=
    Layout.cons_sign (l := .exact .semicolon) (t := .semicolon) rfl (by decide) (.nil rfl)
  have null := semicolon.cons_closing.cons_spelled "null" "NULL" (by decide) (free (by decide))
  have not' := null.cons_spelled "not" "NOT" (by decide) (free (by decide))
  have is' := not'.cons_spelled "is" "IS" (by decide) (free (by decide))
  have tested := is'.cons_name "b" (free (by decide))
  have and' := tested.cons_spelled "and" "AND" (by decide) (free (by decide))
  have one := and'.cons_free (l := .exact (.literal (.integer 1))) (t := .literal (.integer 1)) rfl
    (free (by decide))
  have equal := one.cons_sign (l := .exact (.comparison .equal)) (t := .comparison .equal) rfl
    (by decide)
  have compared := equal.cons_free (l := .exact (.word "a")) (t := .word "a") rfl
    (free (by decide))
  have where' := compared.cons_opening.cons_spelled "where" "WHERE" (by decide) (free (by decide))
  -- then the source and the entry
  have source := where'.cons_name "t" (free (by decide))
  have from' := source.cons_spelled "from" "FROM" (by decide) (free (by decide))
  have label := from'.cons_name "x" (free (by decide))
  have as' := label.cons_free (l := .anyCase "as") (t := .word "AS") ⟨"AS", rfl, by decide⟩
    (free (by decide))
  have quoted := as'.cons_closing.cons_free (l := .exact (.literal (.text "it's")))
    (t := .literal (.text "it's")) rfl (free (by decide))
  have comma := quoted.cons_sign (l := .exact .comma) (t := .comma) rfl (by decide)
  have argument := comma.cons_closing.cons_free (l := .exact (.word "a")) (t := .word "a") rfl
    (free (by decide))
  have inner := argument.cons_opening.cons_free (l := .anyCase "upper") (t := .word "Upper")
    ⟨"Upper", rfl, by decide⟩ (free (by decide))
  have outer := inner.cons_opening.cons_free (l := .anyCase "concat") (t := .word "Concat")
    ⟨"Concat", rfl, by decide⟩ (free (by decide))
  have layout := (outer.blank (c := '\t') (by decide)).cons_free (l := .anyCase "select")
    (t := .word "SELECT") ⟨"SELECT", rfl, by decide⟩ (free (by decide))
  have trip := parseStatement_isLayout printable
  exact ⟨_, rfl, rfl, rfl, printable, trip.1 _ (.inr layout), trip.2⟩

end Recordwise.Query
