/-
  Recordwise.Proofs.Query.Grammar
  ───────────────────────────────
  **The grammar of statements, and that nothing else is read.**

  The relations of this file say which tokens are an expression, a test, a
  chain of conditions, an entry of a select list or a statement, and which one
  they are.  They know neither an order of alternatives nor a count of steps:
  a condition in parentheses and an expression in parentheses are told apart by
  what stands inside.  Whatever a function of the parser reads off the front of
  tokens is a part of its kind, and the tokens are those of the part and the
  rest.  Main statements:

      AreConjunctions.induction — induction over conditions of any depth
      isExpr_of_expr            — what is read as an expression is one
      readsConditions           — so with factors, chains and conditions
      isStatement_of_statement  — and with statements
-/
import Mathlib.Data.List.Basic
import Recordwise.Query.Parser

namespace Recordwise.Query

/-! ## §1. Lists of parts. -/

/-- The tokens of parts of one kind with commas between them, and the parts. -/
inductive AreListed {α : Type} (P : List Token → α → Prop) : List Token → List α → Prop
  | nil : AreListed P [] []
  | single {ts : List Token} {x : α} (h : P ts x) : AreListed P ts [x]
  | cons {ts us : List Token} {x y : α} {ys : List α} (first : P ts x)
      (others : AreListed P us (y :: ys)) : AreListed P (ts ++ .comma :: us) (x :: y :: ys)

/-- One part more, in front of others. -/
theorem AreListed.cons_of_ne_nil {α : Type} {P : List Token → α → Prop} {ts us : List Token}
    {x : α} {xs : List α} (first : P ts x) (others : AreListed P us xs) (ne : xs ≠ []) :
    AreListed P (ts ++ .comma :: us) (x :: xs) := by
  cases xs with
  | nil => exact absurd rfl ne
  | cons y ys => exact .cons first others

/-- Parts that are given with their tokens. -/
theorem areListed_of_forall {α : Type} {P : List Token → α → Prop}
    {parts : List (List Token × α)} (each : ∀ p ∈ parts, P p.1 p.2) :
    AreListed P (List.intercalate [.comma] (parts.map (·.1))) (parts.map (·.2)) := by
  induction parts with
  | nil => exact .nil
  | cons p parts ih =>
      have first := each p List.mem_cons_self
      have others := ih fun q hq => each q (List.mem_cons_of_mem p hq)
      cases parts with
      | nil =>
          rw [List.map_singleton, List.map_singleton, List.intercalate_singleton]
          exact .single first
      | cons q parts =>
          rw [List.map_cons, List.map_cons, List.intercalate_cons_of_ne_nil (by simp),
            List.append_assoc, List.singleton_append]
          exact .cons first others

theorem AreListed.exists_parts {α : Type} {P : List Token → α → Prop} {ts : List Token}
    {xs : List α} (h : AreListed P ts xs) :
    ∃ parts : List (List Token × α), (∀ p ∈ parts, P p.1 p.2) ∧
      ts = List.intercalate [.comma] (parts.map (·.1)) ∧ xs = parts.map (·.2) := by
  induction h with
  | nil => exact ⟨[], by simp, rfl, rfl⟩
  | @single ts x h => exact ⟨[(ts, x)], by simpa using h, by simp, rfl⟩
  | @cons ts us x y ys first others ih =>
      obtain ⟨parts, each, tokens, same⟩ := ih
      refine ⟨(ts, x) :: parts, ?_, ?_, by rw [same]; rfl⟩
      · intro p hp
        rcases List.mem_cons.1 hp with rfl | hp
        · exact first
        · exact each p hp
      · have ne : parts.map (·.1) ≠ [] := by
          intro none
          rw [List.map_eq_nil_iff.1 none] at same
          exact absurd same (by simp)
        rw [List.map_cons, List.intercalate_cons_of_ne_nil ne, ← tokens, List.append_assoc,
          List.singleton_append]

/-! ## §2. The grammar. -/

/-- The tokens of an expression, and the expression.  The arguments of a call
are given with the tokens of each. -/
inductive IsExpr : List Token → Expr → Prop
  | literal (v : Value) : IsExpr [.literal v] (.literal v)
  | parameter (p : String) : IsExpr [.parameter p] (.parameter p)
  | quotedName (name : String) : IsExpr [.quotedName name] (.column name)
  | keyword {w : String} {v : Value} (value : keywordValue? w = some v) :
      IsExpr [.word w] (.literal v)
  | column {w : String} (free : isKeyword w = false) : IsExpr [.word w] (.column w)
  | call {w : String} {args : List (List Token × Expr)} (free : isKeyword w = false)
      (each : ∀ a ∈ args, IsExpr a.1 a.2) :
      IsExpr (.word w :: .opening :: (List.intercalate [.comma] (args.map (·.1)) ++ [.closing]))
        (.call (Text.asciiLowered w) (args.map (·.2)))
  | group {ts : List Token} {e : Expr} (inside : IsExpr ts e) :
      IsExpr (.opening :: (ts ++ [.closing])) e

/-- The tokens of a comparison or a test for null, and the condition. -/
inductive IsTest : List Token → Condition → Prop
  | compare {us vs : List Token} {l r : Expr} (left : IsExpr us l) (op : Comparison)
      (right : IsExpr vs r) : IsTest (us ++ .comparison op :: vs) (.compare l op r)
  | isNull {us : List Token} {e : Expr} {is_ null_ : String} (operand : IsExpr us e)
      (isWord_is : isWord "is" is_ = true) (isWord_null : isWord "null" null_ = true) :
      IsTest (us ++ [.word is_, .word null_]) (.isNull e false)
  | isNotNull {us : List Token} {e : Expr} {is_ not_ null_ : String} (operand : IsExpr us e)
      (isWord_is : isWord "is" is_ = true) (isWord_not : isWord "not" not_ = true)
      (isWord_null : isWord "null" null_ = true) :
      IsTest (us ++ [.word is_, .word not_, .word null_]) (.isNull e true)

mutual

/-- The tokens of a factor, and the condition. -/
inductive IsFactor : List Token → Condition → Prop
  | test {ts : List Token} {c : Condition} (h : IsTest ts c) : IsFactor ts c
  | not {w : String} {ts : List Token} {c : Condition} (negation : isWord "not" w = true)
      (h : IsFactor ts c) : IsFactor (.word w :: ts) (.not c)
  | group {ts : List Token} {c : Condition} {cs : List Condition}
      (inside : AreConjunctions ts c cs) :
      IsFactor (.opening :: (ts ++ [.closing])) (cs.foldl .or c)

/-- The tokens of factors with `and` between them, the first of the factors
and the others. -/
inductive AreFactors : List Token → Condition → List Condition → Prop
  | last {ts : List Token} {c : Condition} (h : IsFactor ts c) : AreFactors ts c []
  | cons {ts us : List Token} {w : String} {c d : Condition} {ds : List Condition}
      (h : IsFactor ts c) (conjunction : isWord "and" w = true) (more : AreFactors us d ds) :
      AreFactors (ts ++ .word w :: us) c (d :: ds)

/-- The tokens of conjunctions with `or` between them, the first of the
conjunctions and the others; each nests to the left. -/
inductive AreConjunctions : List Token → Condition → List Condition → Prop
  | last {ts : List Token} {c : Condition} {cs : List Condition} (h : AreFactors ts c cs) :
      AreConjunctions ts (cs.foldl .and c) []
  | cons {ts us : List Token} {w : String} {c d : Condition} {cs ds : List Condition}
      (h : AreFactors ts c cs) (disjunction : isWord "or" w = true)
      (more : AreConjunctions us d ds) :
      AreConjunctions (ts ++ .word w :: us) (cs.foldl .and c) (d :: ds)

end

/-- **Induction over chains of conjunctions**: properties of factors and of
chains hold of every chain of conjunctions when they pass from the parts of
each to it. -/
theorem AreConjunctions.induction {F : List Token → Condition → Prop}
    {A O : List Token → Condition → List Condition → Prop}
    (test : ∀ {ts c}, IsTest ts c → F ts c)
    (not : ∀ {w ts c}, isWord "not" w = true → F ts c → F (.word w :: ts) (.not c))
    (group : ∀ {ts c cs}, O ts c cs → F (.opening :: (ts ++ [.closing])) (cs.foldl .or c))
    (lastFactor : ∀ {ts c}, F ts c → A ts c [])
    (consFactor : ∀ {ts us w c d ds}, F ts c → isWord "and" w = true → A us d ds →
      A (ts ++ .word w :: us) c (d :: ds))
    (lastConjunction : ∀ {ts c cs}, A ts c cs → O ts (cs.foldl .and c) [])
    (consConjunction : ∀ {ts us w c cs d ds}, A ts c cs → isWord "or" w = true → O us d ds →
      O (ts ++ .word w :: us) (cs.foldl .and c) (d :: ds))
    {ts : List Token} {c : Condition} {cs : List Condition} (h : AreConjunctions ts c cs) :
    O ts c cs := by
  refine @AreConjunctions.rec (fun ts c _ => F ts c) (fun ts c cs _ => A ts c cs)
    (fun ts c cs _ => O ts c cs) ?_ ?_ ?_ ?_ ?_ ?_ ?_ ts c cs h
  · intro ts c h
    exact test h
  · intro w ts c negation _ ih
    exact not negation ih
  · intro ts c cs _ ih
    exact group ih
  · intro ts c _ ih
    exact lastFactor ih
  · intro ts us w c d ds _ conjunction _ ih ihMore
    exact consFactor ih conjunction ihMore
  · intro ts c cs _ ih
    exact lastConjunction ih
  · intro ts us w c d cs ds _ disjunction _ ih ihMore
    exact consConjunction ih disjunction ihMore

/-- The token of a name, and the name. -/
inductive IsName : Token → String → Prop
  | word {w : String} (free : isKeyword w = false) : IsName (.word w) w
  | quotedName (name : String) : IsName (.quotedName name) name

/-- The tokens of an entry of a select list, and the entry. -/
inductive IsItem : List Token → Item → Prop
  | unnamed {ts : List Token} {e : Expr} (h : IsExpr ts e) : IsItem ts ⟨e, none⟩
  | named {ts : List Token} {e : Expr} {as_ : String} {t : Token} {label : String}
      (h : IsExpr ts e) (isWord_as : isWord "as" as_ = true) (name : IsName t label) :
      IsItem (ts ++ [.word as_, t]) ⟨e, some label⟩

/-- The tokens of an optional condition behind `where`, and the condition. -/
inductive IsFilter : List Token → Option Condition → Prop
  | absent : IsFilter [] none
  | present {w : String} {ts : List Token} {c : Condition} {cs : List Condition}
      (isWord_where : isWord "where" w = true) (h : AreConjunctions ts c cs) :
      IsFilter (.word w :: ts) (some (cs.foldl .or c))

/-- The tokens of a statement that no semicolon follows, and the statement. -/
inductive IsStatement : List Token → Statement → Prop
  | mk {select_ from_ source : String} {us vs : List Token} {entries : List Item} {t : Token}
      {c? : Option Condition} (isWord_select : isWord "select" select_ = true)
      (list : AreListed IsItem us entries) (ne : entries ≠ [])
      (isWord_from : isWord "from" from_ = true) (name : IsName t source)
      (filter : IsFilter vs c?) :
      IsStatement (.word select_ :: (us ++ .word from_ :: t :: vs)) ⟨entries, source, c?⟩

/-! ## §3. Words. -/

/-- A word that is no keyword is none of them in particular. -/
theorem isWord_of_not_isKeyword {w k : String} (h : isKeyword w = false) (hk : k ∈ keywords) :
    isWord k w = false := by
  rw [Bool.eq_false_iff]
  intro same
  have lowered : Text.asciiLowered w = k := beq_iff_eq.1 same
  have key : isKeyword w = true := by
    unfold isKeyword
    rw [lowered]
    exact List.contains_iff_mem.2 hk
  rw [h] at key
  exact absurd key (by decide)

/-- A word is at most one keyword. -/
theorem isWord_of_isWord {w k l : String} (h : isWord k w = true) (other : k ≠ l) :
    isWord l w = false := by
  unfold isWord at h ⊢
  rw [beq_iff_eq.1 h]
  exact beq_eq_false_iff_ne.2 other

theorem keywordValue?_of_not_isKeyword {w : String} (h : isKeyword w = false) :
    keywordValue? w = none := by
  unfold keywordValue?
  rw [isWord_of_not_isKeyword h (by decide), isWord_of_not_isKeyword h (by decide),
    isWord_of_not_isKeyword h (by decide)]
  rfl

/-- A word that stands for a value is not `not`. -/
theorem isWord_not_of_keywordValue? {w : String} {v : Value} (h : keywordValue? w = some v) :
    isWord "not" w = false := by
  unfold keywordValue? at h
  split at h
  · rename_i same
    exact isWord_of_isWord same (by decide)
  · split at h
    · rename_i same
      exact isWord_of_isWord same (by decide)
    · split at h
      · rename_i same
        exact isWord_of_isWord same (by decide)
      · cases h

/-- A word with no parenthesis behind it is a value or a name. -/
theorem expr_word (n : Nat) (w : String) {rest : List Token} (h : rest.head? ≠ some .opening) :
    expr (n + 1) (.word w :: rest) =
      match keywordValue? w with
      | some v => some (.literal v, rest)
      | none => if isKeyword w then none else some (.column w, rest) := by
  cases rest with
  | nil => rfl
  | cons t r =>
      cases t with
      | opening => exact absurd rfl h
      | _ => rfl

theorem arguments_eq {n : Nat} {ts : List Token} (h : ts.head? ≠ some .closing) :
    arguments (n + 1) ts = argumentsFrom n ts := by
  rw [arguments]
  intro r same
  rw [same] at h
  exact h rfl

theorem IsExpr.call_of_areListed {w : String} {ts : List Token} {es : List Expr}
    (free : isKeyword w = false) (inside : AreListed IsExpr ts es) :
    IsExpr (.word w :: .opening :: (ts ++ [.closing])) (.call (Text.asciiLowered w) es) := by
  obtain ⟨args, each, rfl, rfl⟩ := inside.exists_parts
  exact .call free each

/-! ## §4. What is read is in the grammar. -/

/-- What reading expressions and arguments within `n` steps consumes is in the
grammar. -/
structure ReadsExprs (n : Nat) : Prop where
  /-- An expression. -/
  expr : ∀ {ts r : List Token} {e : Expr}, Query.expr n ts = some (e, r) →
    ∃ us, ts = us ++ r ∧ IsExpr us e
  /-- Arguments up to the closing parenthesis. -/
  arguments : ∀ {ts r : List Token} {es : List Expr}, Query.arguments n ts = some (es, r) →
    ∃ us, ts = us ++ .closing :: r ∧ AreListed IsExpr us es
  /-- One argument or more up to the closing parenthesis. -/
  argumentsFrom : ∀ {ts r : List Token} {es : List Expr}, Query.argumentsFrom n ts = some (es, r) →
    ∃ us, ts = us ++ .closing :: r ∧ AreListed IsExpr us es ∧ es ≠ []

theorem isExpr_of_expr_succ {n : Nat} (ih : ReadsExprs n) {ts r : List Token} {e : Expr}
    (h : expr (n + 1) ts = some (e, r)) : ∃ us, ts = us ++ r ∧ IsExpr us e := by
  cases ts with
  | nil => simp [expr] at h
  | cons t ts =>
      cases t with
      | literal v =>
          rw [expr] at h
          cases h
          exact ⟨[.literal v], rfl, .literal v⟩
      | parameter p =>
          rw [expr] at h
          cases h
          exact ⟨[.parameter p], rfl, .parameter p⟩
      | quotedName name =>
          rw [expr] at h
          cases h
          exact ⟨[.quotedName name], rfl, .quotedName name⟩
      | word w =>
          by_cases opens : ts.head? = some .opening
          · -- a call
            obtain ⟨us, rfl⟩ : ∃ us, ts = .opening :: us := List.head?_eq_some_iff.1 opens
            rw [expr] at h
            split at h
            · cases h
            · rename_i free
              obtain ⟨⟨es, r'⟩, read, same⟩ := Option.map_eq_some_iff.1 h
              cases same
              obtain ⟨vs, rfl, inside⟩ := ih.arguments read
              exact ⟨_, by simp, .call_of_areListed (Bool.eq_false_iff.2 free) inside⟩
          · -- a value or a name
            rw [expr_word n w opens] at h
            split at h
            · rename_i v value
              cases h
              exact ⟨[.word w], rfl, .keyword value⟩
            · split at h
              · cases h
              · rename_i free
                cases h
                exact ⟨[.word w], rfl, .column (Bool.eq_false_iff.2 free)⟩
      | opening =>
          -- the parser wants the closing parenthesis right behind the expression
          rw [expr] at h
          split at h
          · rename_i e' r' read
            cases h
            obtain ⟨us, rfl, inside⟩ := ih.expr read
            exact ⟨.opening :: (us ++ [.closing]), by simp, .group inside⟩
          · cases h
      | comparison op => simp [expr] at h
      | closing => simp [expr] at h
      | comma => simp [expr] at h
      | semicolon => simp [expr] at h

theorem areListed_of_argumentsFrom_succ {n : Nat} (ih : ReadsExprs n) {ts r : List Token}
    {es : List Expr} (h : argumentsFrom (n + 1) ts = some (es, r)) :
    ∃ us, ts = us ++ .closing :: r ∧ AreListed IsExpr us es ∧ es ≠ [] := by
  rw [argumentsFrom] at h
  split at h
  · rename_i e r' read
    cases h
    obtain ⟨us, rfl, last⟩ := ih.expr read
    exact ⟨us, rfl, AreListed.single last, by simp⟩
  · rename_i e r' read
    obtain ⟨⟨es, r''⟩, more, same⟩ := Option.map_eq_some_iff.1 h
    cases same
    obtain ⟨us, rfl, first⟩ := ih.expr read
    obtain ⟨vs, rfl, others, ne⟩ := ih.argumentsFrom more
    exact ⟨us ++ .comma :: vs, by simp, .cons_of_ne_nil first others ne, by simp⟩
  · cases h

theorem readsExprs (n : Nat) : ReadsExprs n := by
  -- each of the three functions calls the others with one step less
  induction n with
  | zero =>
      refine ⟨?_, ?_, ?_⟩
      · intro ts r e h
        rw [expr] at h
        cases h
      · intro ts r es h
        rw [arguments] at h
        cases h
      · intro ts r es h
        rw [argumentsFrom] at h
        cases h
  | succ n ih =>
      refine ⟨isExpr_of_expr_succ ih, ?_, areListed_of_argumentsFrom_succ ih⟩
      intro ts r es h
      by_cases closes : ts.head? = some .closing
      · obtain ⟨us, rfl⟩ : ∃ us, ts = .closing :: us := List.head?_eq_some_iff.1 closes
        rw [arguments] at h
        cases h
        exact ⟨[], rfl, AreListed.nil⟩
      · rw [arguments_eq closes] at h
        obtain ⟨us, rfl, inside, -⟩ := ih.argumentsFrom h
        exact ⟨us, rfl, inside⟩

/-- **What is read as an expression is one.** -/
theorem isExpr_of_expr {n : Nat} {ts r : List Token} {e : Expr} (h : expr n ts = some (e, r)) :
    ∃ us, ts = us ++ r ∧ IsExpr us e :=
  (readsExprs n).expr h

/-- What is read as a test is one. -/
theorem isTest_of_test {n : Nat} {ts r : List Token} {c : Condition}
    (h : test n ts = some (c, r)) : ∃ us, ts = us ++ r ∧ IsTest us c := by
  unfold test at h
  split at h
  · rename_i l op r' left
    obtain ⟨⟨e, r''⟩, right, same⟩ := Option.map_eq_some_iff.1 h
    cases same
    obtain ⟨us, rfl, hl⟩ := isExpr_of_expr left
    obtain ⟨vs, rfl, hr⟩ := isExpr_of_expr right
    exact ⟨us ++ .comparison op :: vs, by simp, .compare hl op hr⟩
  · rename_i e is_ w r' operand
    obtain ⟨us, rfl, he⟩ := isExpr_of_expr operand
    -- `is`, then `null` or `not null`
    split at h
    · rename_i hi
      split at h
      · rename_i null
        cases h
        exact ⟨us ++ [.word is_, .word w], by simp, .isNull he hi null⟩
      · split at h
        · rename_i negated
          split at h
          · split at h
            · rename_i w' r'' null
              cases h
              exact ⟨us ++ [.word is_, .word w, .word w'], by simp, .isNotNull he hi negated null⟩
            · cases h
          · cases h
        · cases h
    · cases h
  · cases h

/-- What reading factors and chains of them within `n` steps consumes is in
the grammar. -/
structure ReadsConditions (n : Nat) : Prop where
  /-- A factor. -/
  factor : ∀ {ts r : List Token} {c : Condition}, Query.factor n ts = some (c, r) →
    ∃ us, ts = us ++ r ∧ IsFactor us c
  /-- Factors with `and` between them. -/
  factors : ∀ {ts r : List Token} {c : Condition} {cs : List Condition},
    Query.factors n ts = some ((c, cs), r) → ∃ us, ts = us ++ r ∧ AreFactors us c cs
  /-- Conjunctions with `or` between them. -/
  conjunctions : ∀ {ts r : List Token} {c : Condition} {cs : List Condition},
    Query.conjunctions n ts = some ((c, cs), r) → ∃ us, ts = us ++ r ∧ AreConjunctions us c cs
  /-- A condition. -/
  condition : ∀ {ts r : List Token} {c : Condition}, Query.condition n ts = some (c, r) →
    ∃ us d ds, ts = us ++ r ∧ AreConjunctions us d ds ∧ c = ds.foldl .or d

theorem isFactor_of_factor_succ {n : Nat} (ih : ReadsConditions n) {ts r : List Token}
    {c : Condition} (h : factor (n + 1) ts = some (c, r)) : ∃ us, ts = us ++ r ∧ IsFactor us c := by
  -- where nothing else is read, a test is, also behind a parenthesis
  have tested (h : test n ts = some (c, r)) : ∃ us, ts = us ++ r ∧ IsFactor us c := by
    obtain ⟨us, split, here⟩ := isTest_of_test h
    exact ⟨us, split, .test here⟩
  rw [factor.eq_def] at h
  split at h
  · cases h
  · rename_i m w ts' same
    cases same
    split at h
    · rename_i negation
      obtain ⟨⟨d, r'⟩, read, same⟩ := Option.map_eq_some_iff.1 h
      cases same
      obtain ⟨us, rfl, inside⟩ := ih.factor read
      exact ⟨.word w :: us, rfl, .not negation inside⟩
    · exact tested h
  · rename_i m ts' same
    cases same
    split at h
    · rename_i d r' read
      cases h
      obtain ⟨us, first, others, rfl, inside, rfl⟩ := ih.condition read
      exact ⟨.opening :: (us ++ [.closing]), by simp, .group inside⟩
    · exact tested h
  · rename_i same _ _
    cases same
    exact tested h

theorem areFactors_of_factors_succ {n : Nat} (ih : ReadsConditions n) {ts r : List Token}
    {c : Condition} {cs : List Condition} (h : factors (n + 1) ts = some ((c, cs), r)) :
    ∃ us, ts = us ++ r ∧ AreFactors us c cs := by
  rw [factors] at h
  split at h
  · rename_i d w r' read
    obtain ⟨us, rfl, first⟩ := ih.factor read
    split at h
    · rename_i conjunction
      obtain ⟨⟨⟨e, es⟩, r''⟩, more, same⟩ := Option.map_eq_some_iff.1 h
      cases same
      obtain ⟨vs, rfl, others⟩ := ih.factors more
      exact ⟨us ++ .word w :: vs, by simp, .cons first conjunction others⟩
    · cases h
      exact ⟨us, rfl, .last first⟩
  · rename_i d r' _ read
    cases h
    obtain ⟨us, rfl, first⟩ := ih.factor read
    exact ⟨us, rfl, .last first⟩
  · cases h

theorem areConjunctions_of_conjunctions_succ {n : Nat} (ih : ReadsConditions n)
    {ts r : List Token} {c : Condition} {cs : List Condition}
    (h : conjunctions (n + 1) ts = some ((c, cs), r)) :
    ∃ us, ts = us ++ r ∧ AreConjunctions us c cs := by
  rw [conjunctions] at h
  split at h
  · rename_i d ds w r' read
    obtain ⟨us, rfl, first⟩ := ih.factors read
    split at h
    · rename_i disjunction
      obtain ⟨⟨⟨e, es⟩, r''⟩, more, same⟩ := Option.map_eq_some_iff.1 h
      cases same
      obtain ⟨vs, rfl, others⟩ := ih.conjunctions more
      exact ⟨us ++ .word w :: vs, by simp, .cons first disjunction others⟩
    · cases h
      exact ⟨us, rfl, .last first⟩
  · rename_i d ds r' _ read
    cases h
    obtain ⟨us, rfl, first⟩ := ih.factors read
    exact ⟨us, rfl, .last first⟩
  · cases h

theorem readsConditions (n : Nat) : ReadsConditions n := by
  induction n with
  | zero =>
      refine ⟨?_, ?_, ?_, ?_⟩
      · intro ts r c h
        rw [factor] at h
        cases h
      · intro ts r c cs h
        rw [factors] at h
        cases h
      · intro ts r c cs h
        rw [conjunctions] at h
        cases h
      · intro ts r c h
        rw [condition] at h
        cases h
  | succ n ih =>
      refine ⟨isFactor_of_factor_succ ih, areFactors_of_factors_succ ih,
        areConjunctions_of_conjunctions_succ ih, ?_⟩
      intro ts r c h
      rw [condition] at h
      obtain ⟨⟨⟨d, ds⟩, r'⟩, read, same⟩ := Option.map_eq_some_iff.1 h
      cases same
      obtain ⟨us, rfl, inside⟩ := ih.conjunctions read
      exact ⟨us, d, ds, rfl, inside, rfl⟩

/-- What is read as a name is one. -/
theorem isName_of_name {ts r : List Token} {w : String} (h : name ts = some (w, r)) :
    ∃ t, ts = t :: r ∧ IsName t w := by
  unfold name at h
  split at h
  · split at h
    · cases h
    · rename_i free
      cases h
      exact ⟨_, rfl, .word (Bool.eq_false_iff.2 free)⟩
  · cases h
    exact ⟨_, rfl, .quotedName _⟩
  · cases h

/-- What is read as an entry of a select list is one. -/
theorem isItem_of_item {n : Nat} {ts r : List Token} {i : Item} (h : item n ts = some (i, r)) :
    ∃ us, ts = us ++ r ∧ IsItem us i := by
  unfold item at h
  split at h
  · rename_i e w r' read
    obtain ⟨us, rfl, operand⟩ := isExpr_of_expr read
    split at h
    · rename_i as_
      obtain ⟨⟨label, r''⟩, named, same⟩ := Option.map_eq_some_iff.1 h
      cases same
      obtain ⟨t, rfl, name⟩ := isName_of_name named
      exact ⟨us ++ [.word w, t], by simp, .named operand as_ name⟩
    · cases h
      exact ⟨us, rfl, .unnamed operand⟩
  · rename_i e r' _ read
    cases h
    obtain ⟨us, rfl, operand⟩ := isExpr_of_expr read
    exact ⟨us, rfl, .unnamed operand⟩
  · cases h

/-- What is read as a select list is one. -/
theorem areListed_of_items {n : Nat} {ts r : List Token} {is : List Item}
    (h : items n ts = some (is, r)) : ∃ us, ts = us ++ r ∧ AreListed IsItem us is ∧ is ≠ [] := by
  induction n generalizing ts is with
  | zero =>
      rw [items] at h
      cases h
  | succ n ih =>
      rw [items] at h
      split at h
      · rename_i i r' read
        obtain ⟨⟨js, r''⟩, more, same⟩ := Option.map_eq_some_iff.1 h
        cases same
        obtain ⟨us, rfl, first⟩ := isItem_of_item read
        obtain ⟨vs, rfl, others, ne⟩ := ih more
        exact ⟨us ++ .comma :: vs, by simp, .cons_of_ne_nil first others ne, by simp⟩
      · rename_i i r' _ read
        cases h
        obtain ⟨us, rfl, first⟩ := isItem_of_item read
        exact ⟨us, rfl, AreListed.single first, by simp⟩
      · cases h

/-- What is read as an optional condition is one. -/
theorem isFilter_of_whereClause {n : Nat} {ts r : List Token} {c? : Option Condition}
    (h : whereClause n ts = some (c?, r)) : ∃ us, ts = us ++ r ∧ IsFilter us c? := by
  unfold whereClause at h
  split at h
  · split at h
    · rename_i w r' where_
      obtain ⟨⟨c, r''⟩, read, same⟩ := Option.map_eq_some_iff.1 h
      cases same
      obtain ⟨us, d, ds, rfl, inside, rfl⟩ := (readsConditions n).condition read
      exact ⟨.word w :: us, rfl, .present where_ inside⟩
    · cases h
      exact ⟨[], rfl, .absent⟩
  · cases h
    exact ⟨[], rfl, .absent⟩

theorem dropSemicolon_eq_nil {ts : List Token} (h : dropSemicolon ts = []) :
    ts = [] ∨ ts = [.semicolon] := by
  unfold dropSemicolon at h
  split at h
  · rw [h]
    exact .inr rfl
  · exact .inl h

theorem isFilter_of_sourceAndFilter {n : Nat} {is : List Item} {ts : List Token} {s : Statement}
    (h : sourceAndFilter n is ts = some (s, [])) :
    ∃ from_ t vs ws source c?, ts = .word from_ :: t :: (vs ++ ws) ∧
      isWord "from" from_ = true ∧ IsName t source ∧ IsFilter vs c? ∧ s = ⟨is, source, c?⟩ ∧
      (ws = [] ∨ ws = [.semicolon]) := by
  unfold sourceAndFilter at h
  split at h
  · rename_i from_ r
    split at h
    · rename_i hfrom
      obtain ⟨⟨source, r₁⟩, named, h⟩ := Option.bind_eq_some_iff.1 h
      obtain ⟨⟨c?, ws⟩, filtered, same⟩ := Option.map_eq_some_iff.1 h
      obtain ⟨rfl, ends⟩ := Prod.mk.inj same
      obtain ⟨t, rfl, name⟩ := isName_of_name named
      obtain ⟨vs, split, filter⟩ := isFilter_of_whereClause filtered
      exact ⟨from_, t, vs, ws, source, c?, by rw [← split], hfrom, name, filter, rfl,
        dropSemicolon_eq_nil ends⟩
    · cases h
  · cases h

/-- **What is read as a statement is one**, up to a semicolon behind it. -/
theorem isStatement_of_statement {n : Nat} {ts : List Token} {s : Statement}
    (h : statement n ts = some (s, [])) :
    ∃ us ws, ts = us ++ ws ∧ IsStatement us s ∧ (ws = [] ∨ ws = [.semicolon]) := by
  unfold statement at h
  split at h
  · rename_i select_ r
    split at h
    · rename_i hselect
      obtain ⟨⟨is, r₁⟩, list, behind⟩ := Option.bind_eq_some_iff.1 h
      obtain ⟨us, rfl, listed, ne⟩ := areListed_of_items list
      obtain ⟨from_, t, vs, ws, source, c?, rfl, hfrom, name, filter, rfl, ends⟩ :=
        isFilter_of_sourceAndFilter behind
      exact ⟨.word select_ :: (us ++ .word from_ :: t :: vs), ws, by simp,
        .mk hselect listed ne hfrom name filter, ends⟩
    · cases h
  · cases h

end Recordwise.Query
