/-
  Recordwise.Proofs.Query.Accepting
  ─────────────────────────────────
  **Every part of the grammar is read.**

  The tokens of a part are read as that part when there are steps enough and
  what stands behind does not go on with it.  A factor that begins with a
  parenthesis is tried as a condition in parentheses first; where the
  parenthesis belongs to an expression, that attempt fails, because no factor
  begins where an expression stands.  With the other direction, the accepted
  texts are exactly those whose tokens are in the grammar.  Main statements:

      expr_of_isExpr             — expressions
      factor_eq_none             — no factor begins where an expression stands
      areRead_of_areConjunctions — conditions
      statement_of_isStatement   — statements
      parseExpr_eq_ok_iff        — the texts that are an expression
      parseStatement_eq_ok_iff   — the texts that are a statement
-/
import Recordwise.Query.Diagnosis
import Recordwise.Proofs.Query.Grammar

namespace Recordwise.Query

/-! ## §1. Expressions. -/

/-- What may stand behind the tokens of an expression: behind a lone word, no
parenthesis, for that would begin a call. -/
def EndsExpr (us rest : List Token) : Prop := ∀ w, us = [.word w] → rest.head? ≠ some .opening

theorem endsExpr_of_head? {us rest : List Token} (h : rest.head? ≠ some .opening) :
    EndsExpr us rest := fun _ _ => h

/-- Whether the tokens of a part are read as the part with any step count that
is not less than their number. -/
def IsRead (ts : List Token) (e : Expr) : Prop :=
  ∀ {rest : List Token} {n : Nat}, ts.length ≤ n → EndsExpr ts rest →
    expr n (ts ++ rest) = some (e, rest)

/-- Whether a token can only begin an expression where a factor is read. -/
structure Token.BeginsTest (t : Token) : Prop where
  /-- It opens no parenthesis. -/
  opening : t ≠ .opening
  /-- It closes none. -/
  closing : t ≠ .closing
  /-- It is not the word `not`. -/
  negation : ∀ v, t = .word v → isWord "not" v = false

theorem beginsTest_word {v : String} (h : isWord "not" v = false) : (Token.word v).BeginsTest := by
  refine ⟨by simp, by simp, ?_⟩
  intro u same
  cases same
  exact h

/-- An expression is in parentheses or begins with a token of its own. -/
theorem IsExpr.begins {us : List Token} {e : Expr} (h : IsExpr us e) :
    (∃ t ts, us = t :: ts ∧ t.BeginsTest) ∨
      ∃ ts, us = .opening :: (ts ++ [.closing]) ∧ IsExpr ts e := by
  have word {w : String} {ts : List Token} (free : isKeyword w = false) :
      ∃ t us, Token.word w :: ts = t :: us ∧ t.BeginsTest :=
    ⟨_, ts, rfl, beginsTest_word (isWord_of_not_isKeyword free (by decide))⟩
  cases h with
  | literal v => exact .inl ⟨_, [], rfl, by simp, by simp, by simp⟩
  | parameter p => exact .inl ⟨_, [], rfl, by simp, by simp, by simp⟩
  | quotedName name => exact .inl ⟨_, [], rfl, by simp, by simp, by simp⟩
  | keyword value => exact .inl ⟨_, [], rfl, beginsTest_word (isWord_not_of_keywordValue? value)⟩
  | column free => exact .inl (word free)
  | call free each => exact .inl (word free)
  | @group ts _ inside => exact .inr ⟨ts, rfl, inside⟩

theorem IsExpr.head?_ne_closing {us : List Token} {e : Expr} (h : IsExpr us e)
    (rest : List Token) : (us ++ rest).head? ≠ some .closing := by
  rcases h.begins with ⟨t, ts, rfl, begins⟩ | ⟨ts, rfl, -⟩
  · simpa using begins.closing
  · simp

theorem AreListed.head?_ne_closing {ts : List Token} {es : List Expr}
    (h : AreListed IsExpr ts es) (ne : es ≠ []) (rest : List Token) :
    (ts ++ rest).head? ≠ some .closing := by
  cases h with
  | nil => exact absurd rfl ne
  | single here => exact here.head?_ne_closing rest
  | cons here others =>
      rw [List.append_assoc]
      exact here.head?_ne_closing _

/-- Arguments whose tokens are read are read one after the other. -/
theorem argumentsFrom_of_areListed {ts : List Token} {es : List Expr} (h : AreListed IsRead ts es)
    (ne : es ≠ []) {n : Nat} (enough : ts.length ≤ n) (rest : List Token) :
    argumentsFrom (n + 1) (ts ++ .closing :: rest) = some (es, rest) := by
  induction h generalizing n with
  | nil => exact absurd rfl ne
  | single read => rw [argumentsFrom, read enough (endsExpr_of_head? (by simp))]
  | @cons ts us e f es read _ ih =>
      rw [List.length_append, List.length_cons] at enough
      obtain ⟨m, rfl⟩ : ∃ m, n = m + 1 := ⟨n - 1, by omega⟩
      rw [argumentsFrom, List.append_assoc, read (by omega) (endsExpr_of_head? (by simp))]
      show (argumentsFrom (m + 1) (us ++ .closing :: rest)).map _ = _
      rw [ih (by simp) (by omega)]
      rfl

/-- So are they when there may be none. -/
theorem arguments_of_areListed {ts : List Token} {es : List Expr} (h : AreListed IsRead ts es)
    (exprs : AreListed IsExpr ts es) {n : Nat} (enough : ts.length ≤ n) (rest : List Token) :
    arguments (n + 2) (ts ++ .closing :: rest) = some (es, rest) := by
  by_cases none : es = []
  · subst none
    cases h
    show arguments (n + 2) (.closing :: rest) = _
    rw [arguments]
  · rw [arguments_eq (exprs.head?_ne_closing none _)]
    exact argumentsFrom_of_areListed h none enough rest

/-- **The tokens of an expression are read as it.** -/
theorem expr_of_isExpr {us : List Token} {e : Expr} (h : IsExpr us e) : IsRead us e := by
  induction h with
  | literal v =>
      intro rest n enough _
      obtain ⟨m, rfl⟩ : ∃ m, n = m + 1 := ⟨n - 1, by simp at enough; omega⟩
      exact expr_literal m v rest
  | parameter p =>
      intro rest n enough _
      obtain ⟨m, rfl⟩ : ∃ m, n = m + 1 := ⟨n - 1, by simp at enough; omega⟩
      show expr (m + 1) (.parameter p :: rest) = _
      rw [expr]
  | quotedName name =>
      intro rest n enough _
      obtain ⟨m, rfl⟩ : ∃ m, n = m + 1 := ⟨n - 1, by simp at enough; omega⟩
      show expr (m + 1) (.quotedName name :: rest) = _
      rw [expr]
  | @keyword w v value =>
      intro rest n enough ends
      obtain ⟨m, rfl⟩ : ∃ m, n = m + 1 := ⟨n - 1, by simp at enough; omega⟩
      show expr (m + 1) (.word w :: rest) = _
      rw [expr_word m w (ends w rfl), value]
  | @column w free =>
      intro rest n enough ends
      obtain ⟨m, rfl⟩ : ∃ m, n = m + 1 := ⟨n - 1, by simp at enough; omega⟩
      show expr (m + 1) (.word w :: rest) = _
      rw [expr_word m w (ends w rfl), keywordValue?_of_not_isKeyword free, free]
      rfl
  | @call w args free each ih =>
      intro rest n enough _
      simp only [List.length_cons, List.length_append, List.length_nil] at enough
      obtain ⟨m, rfl⟩ : ∃ m, n = m + 3 := ⟨n - 3, by omega⟩
      have read := arguments_of_areListed (areListed_of_forall ih) (areListed_of_forall each)
        (n := m) (by omega) rest
      rw [List.cons_append, List.cons_append, List.append_assoc]
      show expr (m + 2 + 1) (.word w :: .opening :: (_ ++ .closing :: rest)) = _
      rw [expr, free, read]
      rfl
  | @group ts e inside ih =>
      intro rest n enough _
      simp only [List.length_cons, List.length_append, List.length_nil] at enough
      obtain ⟨m, rfl⟩ : ∃ m, n = m + 1 := ⟨n - 1, by omega⟩
      have read : expr m (ts ++ .closing :: rest) = some (e, .closing :: rest) :=
        ih (by omega) (endsExpr_of_head? (by simp))
      rw [List.cons_append, List.append_assoc, List.singleton_append, expr, read]

/-! ## §2. Any number of steps reads the same. -/

/-- No parenthesis stands behind a word that is read as an expression. -/
theorem head?_of_expr_word {n : Nat} {w : String} {r : List Token} {e : Expr}
    (h : expr n (.word w :: r) = some (e, r)) : r.head? ≠ some .opening := by
  intro opens
  obtain ⟨us, rfl⟩ : ∃ us, r = .opening :: us := List.head?_eq_some_iff.1 opens
  cases n with
  | zero =>
      rw [expr] at h
      cases h
  | succ n =>
      rw [expr] at h
      split at h
      · cases h
      · obtain ⟨⟨es, r⟩, read, same⟩ := Option.map_eq_some_iff.1 h
        obtain ⟨-, rfl⟩ := Prod.mk.inj same
        -- the arguments would be longer than what they are read from
        obtain ⟨vs, longer, -⟩ := (readsExprs n).arguments read
        have lengths := congrArg List.length longer
        simp only [List.length_append, List.length_cons] at lengths
        omega

/-- **Whatever the number of steps, an expression is read as nothing else.** -/
theorem eq_of_expr {n : Nat} {us rest : List Token} {e : Expr} {x : Expr × List Token}
    (h : IsExpr us e) (ends : EndsExpr us rest) (read : expr n (us ++ rest) = some x) :
    x = (e, rest) := by
  obtain ⟨e', r⟩ := x
  -- both are in the grammar, so both are read with a step for every token
  obtain ⟨vs, parts, h'⟩ := isExpr_of_expr read
  have ends' : EndsExpr vs r := by
    rintro w rfl
    rw [parts] at read
    exact head?_of_expr_word read
  have long : expr (us ++ rest).length (us ++ rest) = some (e, rest) :=
    expr_of_isExpr h (by simp) ends
  have long' : expr (us ++ rest).length (us ++ rest) = some (e', r) := by
    rw [parts]
    exact expr_of_isExpr h' (by simp) ends'
  rw [long] at long'
  exact (Option.some.inj long').symm

/-- No test begins where an expression stands in parentheses. -/
theorem test_eq_none {us : List Token} {e : Expr} (h : IsExpr us e) (n : Nat)
    (rest : List Token) : test n (us ++ .closing :: rest) = none := by
  unfold test
  cases read : expr n (us ++ .closing :: rest) with
  | none => rfl
  | some x =>
      rw [eq_of_expr h (endsExpr_of_head? (by simp)) read]

/-! ## §3. Conditions. -/

/-- A factor that begins like an expression is a test. -/
theorem factor_of_beginsTest {n : Nat} {t : Token} {ts : List Token} (h : t.BeginsTest) :
    factor (n + 1) (t :: ts) = test n (t :: ts) := by
  cases t with
  | word w =>
      rw [factor, h.negation w rfl]
      rfl
  | opening => exact absurd rfl h.opening
  | quotedName name => rw [factor] <;> simp
  | literal v => rw [factor] <;> simp
  | parameter name => rw [factor] <;> simp
  | comparison op => rw [factor] <;> simp
  | closing => exact absurd rfl h.closing
  | comma => rw [factor] <;> simp
  | semicolon => rw [factor] <;> simp

theorem condition_eq_none {n : Nat} {ts : List Token} (h : ∀ m, factor m ts = none) :
    condition n ts = none := by
  -- a condition asks for a factor three calls down
  match n with
  | 0 => rw [condition]
  | 1 => rw [condition, conjunctions]; rfl
  | 2 => rw [condition, conjunctions, factors]; rfl
  | n + 3 => rw [condition, conjunctions, factors, h n]; rfl

/-- **No factor begins where an expression stands in parentheses**: a
parenthesis in front of a test is read as that of its expression. -/
theorem factor_eq_none {us : List Token} {e : Expr} (h : IsExpr us e) (n : Nat)
    (rest : List Token) : factor n (us ++ .closing :: rest) = none := by
  cases n with
  | zero => rw [factor]
  | succ n =>
      have tested := test_eq_none h n rest
      rcases h.begins with ⟨t, ts, rfl, begins⟩ | ⟨ts, parts, inside⟩
      · rw [List.cons_append] at tested ⊢
        rw [factor_of_beginsTest begins, tested]
      · have shorter : ts.length < us.length := by
          rw [parts, List.length_cons, List.length_append]
          omega
        have deeper : ∀ m, factor m (ts ++ .closing :: .closing :: rest) = none :=
          fun m => factor_eq_none inside m (.closing :: rest)
        rw [parts] at tested ⊢
        simp only [List.cons_append, List.append_assoc, List.nil_append] at tested ⊢
        rw [factor, condition_eq_none deeper, tested]
termination_by us.length

/-- The tokens of a test are read as it. -/
theorem test_of_isTest {ts : List Token} {c : Condition} (h : IsTest ts c) {rest : List Token}
    {n : Nat} (enough : ts.length ≤ n) (stop : rest.head? ≠ some .opening) :
    test n (ts ++ rest) = some (c, rest) := by
  unfold test
  cases h with
  | compare left op right =>
      simp only [List.length_append, List.length_cons] at enough
      rw [List.append_assoc, expr_of_isExpr left (by omega) (endsExpr_of_head? (by simp))]
      show (expr n (_ ++ rest)).map _ = _
      rw [expr_of_isExpr right (by omega) (endsExpr_of_head? stop)]
      rfl
  | isNull operand is_ null_ =>
      simp only [List.length_append, List.length_cons] at enough
      rw [List.append_assoc, expr_of_isExpr operand (by omega) (endsExpr_of_head? (by simp))]
      simp [is_, null_]
  | isNotNull operand is_ not_ null_ =>
      simp only [List.length_append, List.length_cons] at enough
      rw [List.append_assoc, expr_of_isExpr operand (by omega) (endsExpr_of_head? (by simp))]
      simp [is_, not_, null_, isWord_of_isWord not_ (show "not" ≠ "null" by decide)]

/-- A test begins with an expression. -/
theorem IsTest.exists_operand {ts : List Token} {c : Condition} (h : IsTest ts c) :
    ∃ us vs e, ts = us ++ vs ∧ IsExpr us e := by
  cases h with
  | compare left op right => exact ⟨_, _, _, rfl, left⟩
  | isNull operand _ _ => exact ⟨_, _, _, rfl, operand⟩
  | isNotNull operand _ _ _ => exact ⟨_, _, _, rfl, operand⟩

/-- **The tokens of a test are read as a factor**, also where the test begins
with a parenthesis. -/
theorem factor_of_isTest {ts : List Token} {c : Condition} (h : IsTest ts c) {rest : List Token}
    {n : Nat} (enough : ts.length ≤ n) (stop : rest.head? ≠ some .opening) :
    factor (n + 1) (ts ++ rest) = some (c, rest) := by
  have tested := test_of_isTest h enough stop
  obtain ⟨us, vs, e, rfl, operand⟩ := h.exists_operand
  rcases operand.begins with ⟨t, us, rfl, begins⟩ | ⟨us, rfl, inside⟩
  · rw [List.cons_append, List.cons_append] at tested ⊢
    rw [factor_of_beginsTest begins, tested]
  · -- the condition in parentheses is tried first
    have deeper : ∀ m, factor m (us ++ .closing :: (vs ++ rest)) = none :=
      fun m => factor_eq_none inside m (vs ++ rest)
    simp only [List.cons_append, List.append_assoc, List.nil_append] at tested ⊢
    rw [factor, condition_eq_none deeper, tested]

/-- Whether the word `k` does not come next. -/
def EndsChain (k : String) (rest : List Token) : Prop :=
  ∀ w r, rest = .word w :: r → isWord k w = false

theorem endsChain_of_head? {k : String} {rest : List Token} {t : Token}
    (h : ∀ w, t ≠ .word w) : EndsChain k (t :: rest) := by
  intro w r same
  exact absurd (List.cons.inj same).1 (h w)

/-- Whether the tokens of factors with `and` between them are read as these,
with five steps for each token. -/
def AreReadFactors (ts : List Token) (c : Condition) (cs : List Condition) : Prop :=
  ∀ {rest : List Token} {n : Nat}, 5 * ts.length + 1 ≤ n → rest.head? ≠ some .opening →
    EndsChain "and" rest → factors n (ts ++ rest) = some ((c, cs), rest)

/-- Whether the tokens of conjunctions with `or` between them are read as
these. -/
def AreReadConjunctions (ts : List Token) (c : Condition) (cs : List Condition) : Prop :=
  ∀ {rest : List Token} {n : Nat}, 5 * ts.length + 2 ≤ n → rest.head? ≠ some .opening →
    EndsChain "and" rest → EndsChain "or" rest →
    conjunctions n (ts ++ rest) = some ((c, cs), rest)

/-- Whether the tokens of a factor are read as it. -/
def IsReadFactor (ts : List Token) (c : Condition) : Prop :=
  ∀ {rest : List Token} {n : Nat}, 5 * ts.length ≤ n → rest.head? ≠ some .opening →
    factor n (ts ++ rest) = some (c, rest)

theorem IsTest.length_pos {ts : List Token} {c : Condition} (h : IsTest ts c) :
    0 < ts.length := by
  cases h <;> rw [List.length_append, List.length_cons] <;> omega

theorem isReadFactor_of_isTest {ts : List Token} {c : Condition} (h : IsTest ts c) :
    IsReadFactor ts c := by
  intro rest n enough stop
  have some_token := h.length_pos
  obtain ⟨m, rfl⟩ : ∃ m, n = m + 1 := ⟨n - 1, by omega⟩
  exact factor_of_isTest h (by omega) stop

theorem IsReadFactor.not {w : String} {ts : List Token} {c : Condition}
    (negation : isWord "not" w = true) (h : IsReadFactor ts c) :
    IsReadFactor (.word w :: ts) (.not c) := by
  intro rest n enough stop
  rw [List.length_cons] at enough
  obtain ⟨m, rfl⟩ : ∃ m, n = m + 1 := ⟨n - 1, by omega⟩
  rw [List.cons_append, factor, if_pos negation, h (by omega) stop]
  rfl

theorem condition_of_areReadConjunctions {ts : List Token} {c : Condition} {cs : List Condition}
    (h : AreReadConjunctions ts c cs) {rest : List Token} {n : Nat}
    (enough : 5 * ts.length + 3 ≤ n) (stop : rest.head? ≠ some .opening)
    (noAnd : EndsChain "and" rest) (noOr : EndsChain "or" rest) :
    condition n (ts ++ rest) = some (cs.foldl .or c, rest) := by
  obtain ⟨m, rfl⟩ : ∃ m, n = m + 1 := ⟨n - 1, by omega⟩
  rw [condition, h (by omega) stop noAnd noOr]
  rfl

theorem AreReadConjunctions.group {ts : List Token} {c : Condition} {cs : List Condition}
    (h : AreReadConjunctions ts c cs) :
    IsReadFactor (.opening :: (ts ++ [.closing])) (cs.foldl .or c) := by
  intro rest n enough _
  simp only [List.length_cons, List.length_append, List.length_nil] at enough
  obtain ⟨m, rfl⟩ : ∃ m, n = m + 1 := ⟨n - 1, by omega⟩
  have inside : condition m (ts ++ .closing :: rest) = some (cs.foldl .or c, .closing :: rest) :=
    condition_of_areReadConjunctions h (by omega) (by simp) (endsChain_of_head? (by simp))
      (endsChain_of_head? (by simp))
  rw [List.cons_append, List.append_assoc, List.singleton_append, factor, inside]

theorem IsReadFactor.last {ts : List Token} {c : Condition} (h : IsReadFactor ts c) :
    AreReadFactors ts c [] := by
  intro rest n enough stop ends
  obtain ⟨m, rfl⟩ : ∃ m, n = m + 1 := ⟨n - 1, by omega⟩
  rw [factors, h (by omega) stop]
  split
  · rename_i same
    cases same
    rw [ends _ _ rfl]
    rfl
  · rename_i same
    cases same
    rfl
  · rename_i same
    cases same

theorem AreReadFactors.cons {ts us : List Token} {w : String} {c d : Condition}
    {ds : List Condition} (h : IsReadFactor ts c) (conjunction : isWord "and" w = true)
    (more : AreReadFactors us d ds) : AreReadFactors (ts ++ .word w :: us) c (d :: ds) := by
  intro rest n enough stop ends
  rw [List.length_append, List.length_cons] at enough
  obtain ⟨m, rfl⟩ : ∃ m, n = m + 1 := ⟨n - 1, by omega⟩
  rw [factors, List.append_assoc, List.cons_append, h (by omega) (by simp)]
  show (if isWord "and" w then _ else _) = _
  rw [if_pos conjunction, more (by omega) stop ends]
  rfl

theorem AreReadFactors.last {ts : List Token} {c : Condition} {cs : List Condition}
    (h : AreReadFactors ts c cs) : AreReadConjunctions ts (cs.foldl .and c) [] := by
  intro rest n enough stop noAnd noOr
  obtain ⟨m, rfl⟩ : ∃ m, n = m + 1 := ⟨n - 1, by omega⟩
  rw [conjunctions, h (by omega) stop noAnd]
  split
  · rename_i same
    cases same
    rw [noOr _ _ rfl]
    rfl
  · rename_i same
    cases same
    rfl
  · rename_i same
    cases same

theorem AreReadConjunctions.cons {ts us : List Token} {w : String} {c d : Condition}
    {cs ds : List Condition} (h : AreReadFactors ts c cs) (disjunction : isWord "or" w = true)
    (more : AreReadConjunctions us d ds) :
    AreReadConjunctions (ts ++ .word w :: us) (cs.foldl .and c) (d :: ds) := by
  intro rest n enough stop noAnd noOr
  rw [List.length_append, List.length_cons] at enough
  obtain ⟨m, rfl⟩ : ∃ m, n = m + 1 := ⟨n - 1, by omega⟩
  have ends : EndsChain "and" (.word w :: (us ++ rest)) := by
    intro v r same
    cases same
    exact isWord_of_isWord disjunction (by decide)
  rw [conjunctions, List.append_assoc, List.cons_append, h (by omega) (by simp) ends]
  show (if isWord "or" w then _ else _) = _
  rw [if_pos disjunction, more (by omega) stop noAnd noOr]
  rfl

/-- **The tokens of a chain of conjunctions are read as it.** -/
theorem areRead_of_areConjunctions {ts : List Token} {c : Condition} {cs : List Condition}
    (h : AreConjunctions ts c cs) : AreReadConjunctions ts c cs := by
  exact h.induction isReadFactor_of_isTest IsReadFactor.not AreReadConjunctions.group
    IsReadFactor.last AreReadFactors.cons AreReadFactors.last AreReadConjunctions.cons

/-! ## §4. Statements. -/

theorem name_of_isName {t : Token} {w : String} (h : IsName t w) (rest : List Token) :
    name (t :: rest) = some (w, rest) := by
  cases h with
  | word free =>
      show (if isKeyword w then none else some (w, rest)) = _
      rw [free]
      rfl
  | quotedName => rfl

/-- What stands behind an entry of a select list: a comma, or a word that is
not `as`. -/
def EndsItem (rest : List Token) : Prop :=
  ∃ t r, rest = t :: r ∧ t ≠ .opening ∧ ∀ w, t = .word w → isWord "as" w = false

/-- The tokens of an entry of a select list are read as it. -/
theorem item_of_isItem {ts : List Token} {i : Item} (h : IsItem ts i) {rest : List Token} {n : Nat}
    (enough : ts.length ≤ n) (ends : EndsItem rest) : item n (ts ++ rest) = some (i, rest) := by
  unfold item
  cases h with
  | unnamed operand =>
      -- what stands behind is neither a call's parenthesis nor `as`
      obtain ⟨t, r, rfl, noOpening, noAlias⟩ := ends
      have stop : (t :: r).head? ≠ some .opening := fun same => noOpening (Option.some.inj same)
      rw [expr_of_isExpr operand enough (endsExpr_of_head? stop)]
      split
      · rename_i same
        cases same
        rw [noAlias _ rfl]
        rfl
      · rename_i same
        cases same
        rfl
      · rename_i same
        cases same
  | named operand as_ label =>
      rw [List.length_append] at enough
      rw [List.append_assoc, expr_of_isExpr operand (by omega) (endsExpr_of_head? (by simp))]
      show (if isWord "as" _ then (name (_ :: rest)).map _ else _) = _
      rw [as_, if_pos rfl, name_of_isName label]
      rfl

/-- **The tokens of a select list are read as it**, up to a word that is not
`as`. -/
theorem items_of_areListed {ts : List Token} {is : List Item} (h : AreListed IsItem ts is)
    (ne : is ≠ []) {r : List Token} {w : String} {n : Nat} (enough : ts.length < n)
    (ends : isWord "as" w = false) : items n (ts ++ .word w :: r) = some (is, .word w :: r) := by
  have word : EndsItem (.word w :: r) := by
    refine ⟨_, r, rfl, by simp, ?_⟩
    intro v same
    cases same
    exact ends
  induction h generalizing n with
  | nil => exact absurd rfl ne
  | single here =>
      obtain ⟨m, rfl⟩ : ∃ m, n = m + 1 := ⟨n - 1, by omega⟩
      rw [items, item_of_isItem here (by omega) word]
  | @cons ts us i j is here _ ih =>
      rw [List.length_append, List.length_cons] at enough
      obtain ⟨m, rfl⟩ : ∃ m, n = m + 1 := ⟨n - 1, by omega⟩
      have comma : EndsItem (.comma :: (us ++ .word w :: r)) := ⟨_, _, rfl, by simp, by simp⟩
      rw [items, List.append_assoc, List.cons_append, item_of_isItem here (by omega) comma]
      show (items m (us ++ .word w :: r)).map _ = _
      rw [ih (by simp) (by omega)]
      rfl

/-- The tokens of an optional condition are read as it, up to the end of the
statement. -/
theorem whereClause_of_isFilter {ts : List Token} {c? : Option Condition} (h : IsFilter ts c?)
    {rest : List Token} {n : Nat} (enough : 5 * ts.length ≤ n)
    (ends : rest = [] ∨ rest = [.semicolon]) : whereClause n (ts ++ rest) = some (c?, rest) := by
  have stop : rest.head? ≠ some .opening := by
    rcases ends with rfl | rfl <;> simp
  have chain (k : String) : EndsChain k rest := by
    rcases ends with rfl | rfl <;> intro w r same <;> cases same
  cases h with
  | absent => rcases ends with rfl | rfl <;> rfl
  | present where_ inside =>
      rw [List.length_cons] at enough
      show (if isWord "where" _ then (condition n (_ ++ rest)).map _ else _) = _
      rw [where_, if_pos rfl, condition_of_areReadConjunctions (areRead_of_areConjunctions inside)
        (by omega) stop (chain "and") (chain "or")]
      rfl

/-- **The tokens of a statement are read as it**, with a semicolon behind them
or without. -/
theorem statement_of_isStatement {ts : List Token} {s : Statement} (h : IsStatement ts s)
    {rest : List Token} {n : Nat} (enough : 5 * ts.length ≤ n)
    (ends : rest = [] ∨ rest = [.semicolon]) : statement n (ts ++ rest) = some (s, []) := by
  cases h with
  | @mk select_ from_ source us vs entries t c? hselect list ne hfrom named filter =>
      simp only [List.length_append, List.length_cons] at enough
      have itemsRead := items_of_areListed list ne (r := t :: (vs ++ rest)) (w := from_) (n := n)
        (by omega) (isWord_of_isWord hfrom (by decide))
      rw [List.cons_append, List.append_assoc, List.cons_append, List.cons_append]
      show (if isWord "select" select_ then _ else none) = _
      rw [if_pos hselect, itemsRead]
      show (if isWord "from" from_ then _ else none) = _
      rw [if_pos hfrom, name_of_isName named]
      show (whereClause n (vs ++ rest)).map _ = _
      rw [whereClause_of_isFilter filter (by omega) ends]
      rcases ends with rfl | rfl <;> rfl

/-! ## §5. Whole texts. -/

theorem wholly_eq_some_iff {α : Type} {p : Parsed α} {a : α} :
    wholly p = some a ↔ p = some (a, []) := by
  unfold wholly
  split
  · simp
  · rename_i other
    constructor
    · intro h
      cases h
    · intro h
      exact absurd h (other a)

/-- **A text is an expression when its tokens are those of one.** -/
theorem Expr.ofText?_eq_some_iff {cs : List Char} {e : Expr} :
    Expr.ofText? cs = some e ↔ ∃ ts, tokens? cs = some ts ∧ IsExpr ts e := by
  unfold Expr.ofText?
  simp only [Option.bind_eq_some_iff, wholly_eq_some_iff]
  refine exists_congr fun ts => and_congr_right fun _ => ?_
  constructor
  · intro read
    obtain ⟨us, rfl, h⟩ := isExpr_of_expr read
    rw [List.append_nil]
    exact h
  · intro h
    have read : expr (stepBound ts) (ts ++ []) = some (e, []) :=
      expr_of_isExpr h (by unfold stepBound; omega) (endsExpr_of_head? (by simp))
    rw [List.append_nil] at read
    exact read

/-- **A text is a statement when its tokens are those of one**, with a
semicolon behind them or without. -/
theorem Statement.ofText?_eq_some_iff {cs : List Char} {s : Statement} :
    Statement.ofText? cs = some s ↔ ∃ us rest, tokens? cs = some (us ++ rest) ∧
      IsStatement us s ∧ (rest = [] ∨ rest = [.semicolon]) := by
  unfold Statement.ofText?
  simp only [Option.bind_eq_some_iff, wholly_eq_some_iff]
  constructor
  · rintro ⟨ts, scanned, read⟩
    obtain ⟨us, rest, rfl, h, ends⟩ := isStatement_of_statement read
    exact ⟨us, rest, scanned, h, ends⟩
  · rintro ⟨us, rest, scanned, h, ends⟩
    refine ⟨us ++ rest, scanned, statement_of_isStatement h ?_ ends⟩
    unfold stepBound
    rw [List.length_append]
    omega

theorem parseExpr_eq_ok_iff {text : String} {e : Expr} :
    parseExpr text = .ok e ↔ ∃ ts, tokens? text.toList = some ts ∧ IsExpr ts e := by
  rw [← Expr.ofText?_eq_some_iff]
  unfold parseExpr
  cases Expr.ofText? text.toList <;> simp

theorem parseStatement_eq_ok_iff {text : String} {s : Statement} :
    parseStatement text = .ok s ↔ ∃ us rest, tokens? text.toList = some (us ++ rest) ∧
      IsStatement us s ∧ (rest = [] ∨ rest = [.semicolon]) := by
  rw [← Statement.ofText?_eq_some_iff]
  unfold parseStatement
  cases Statement.ofText? text.toList <;> simp

end Recordwise.Query
