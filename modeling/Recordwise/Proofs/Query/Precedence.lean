/-
  Recordwise.Proofs.Query.Precedence
  ──────────────────────────────────
  **How conditions nest.**

  Factors joined by `and` and the results joined by `or` make a condition of
  conjunctions, each nested to the left.  A factor is `not` a number of times
  in front of a comparison, a test for null or such a condition in
  parentheses, and its tree has that number of negations and no trace of the
  parentheses.  Main statements:

      Terms.areConjunctions — the text of terms has the tokens of their tree
      Terms.grouped         — terms in parentheses are a factor again
      parseStatement_where  — terms behind `where` are read as their tree
-/
import Recordwise.Proofs.Query.Tokens

namespace Recordwise.Query

/-! ## §1. Factors. -/

/-- The tokens of a factor without `not` in front, and the condition. -/
inductive IsPrimary : List Token → Condition → Prop
  | test {ts : List Token} {c : Condition} (h : IsTest ts c) : IsPrimary ts c
  | group {ts : List Token} {c : Condition} {cs : List Condition}
      (inside : AreConjunctions ts c cs) :
      IsPrimary (.opening :: (ts ++ [.closing])) (cs.foldl .or c)

/-- A condition with a number of negations around it. -/
def Condition.negated : Nat → Condition → Condition
  | 0, c => c
  | k + 1, c => .not (c.negated k)

/-- The text of a factor, and how it is meant. -/
structure Factor where
  /-- The text. -/
  text : String
  /-- How often `not` stands in front. -/
  nots : Nat
  /-- What stands behind. -/
  primary : Condition
  /-- The text has the tokens of that. -/
  reads : ∃ (words : List String) (us : List Token), tokens? text.toList = some (words.map Token.word ++ us) ∧
    words.length = nots ∧ (∀ w ∈ words, isWord "not" w = true) ∧ IsPrimary us primary

/-- The condition that a factor is. -/
def Factor.tree (f : Factor) : Condition := f.primary.negated f.nots

theorem IsPrimary.isFactor {us : List Token} {c : Condition} (h : IsPrimary us c) :
    IsFactor us c := by
  cases h with
  | test h => exact .test h
  | group inside => exact .group inside

theorem isFactor_negated {words : List String} {us : List Token} {c : Condition}
    (negations : ∀ w ∈ words, isWord "not" w = true) (h : IsFactor us c) :
    IsFactor (words.map Token.word ++ us) (c.negated words.length) := by
  induction words with
  | nil => exact h
  | cons w words ih =>
      exact .not (negations w List.mem_cons_self)
        (ih fun v hv => negations v (List.mem_cons_of_mem w hv))

theorem Factor.isFactor (f : Factor) :
    ∃ ts, tokens? f.text.toList = some ts ∧ IsFactor ts f.tree := by
  obtain ⟨words, us, scanned, count, negations, h⟩ := f.reads
  refine ⟨_, scanned, ?_⟩
  unfold tree
  rw [← count]
  exact isFactor_negated negations h.isFactor

/-! ## §2. Chains. -/

/-- A list that is not empty. -/
structure Chain (α : Type) where
  /-- The first entry. -/
  first : α
  /-- The others. -/
  others : List α

namespace Chain

/-- The entries under a function. -/
def map {α β : Type} (f : α → β) (c : Chain α) : Chain β := ⟨f c.first, c.others.map f⟩

/-- Conditions joined to the left. -/
def nested (join : Condition → Condition → Condition) (c : Chain Condition) : Condition :=
  c.others.foldl join c.first

/-- Texts with a text between them. -/
def joined (between : String) (c : Chain String) : String :=
  String.intercalate between (c.first :: c.others)

theorem joined_cons (between : String) (s t : String) (rest : List String) :
    (Chain.mk s (t :: rest)).joined between =
      s ++ between ++ (Chain.mk t rest).joined between :=
  String.intercalate_cons_of_ne_nil (List.cons_ne_nil t rest)

end Chain

/-- Factors to be joined by `and`, in a chain to be joined by `or`. -/
abbrev Terms := Chain (Chain Factor)

/-- The factors of each chain joined by `and`, the results by `or`. -/
def Terms.text (terms : Terms) : String :=
  (terms.map fun fs => (fs.map Factor.text).joined " and ").joined " or "

/-- The conjunctions of the factors, in a disjunction, nested to the left. -/
def Terms.tree (terms : Terms) : Condition :=
  (terms.map fun fs => (fs.map Factor.tree).nested .and).nested .or

/-- Two texts with a word between them. -/
theorem tokens?_append_word {s t between w : String} {ts us : List Token}
    (spaced : between.toList = ' ' :: (w.toList ++ [' '])) (word : tokens? w.toList = some [.word w])
    (front : tokens? s.toList = some ts) (back : tokens? t.toList = some us) :
    tokens? (s ++ between ++ t).toList = some (ts ++ .word w :: us) := by
  have behind := tokens?_append word back (d := ' ') (by decide)
  have all := tokens?_append front behind (d := ' ') (by decide)
  rw [String.toList_append, String.toList_append, spaced]
  simpa using all

theorem areFactors_of_chain (fs : Chain Factor) :
    ∃ ts, tokens? ((fs.map Factor.text).joined " and ").toList = some ts ∧
      AreFactors ts fs.first.tree (fs.others.map Factor.tree) := by
  obtain ⟨f, others⟩ := fs
  induction others generalizing f with
  | nil =>
      obtain ⟨ts, scanned, h⟩ := f.isFactor
      exact ⟨ts, scanned, .last h⟩
  | cons g others ih =>
      obtain ⟨ts, scanned, h⟩ := f.isFactor
      obtain ⟨us, more, hs⟩ := ih g
      refine ⟨ts ++ .word "and" :: us, ?_, .cons h (by decide) hs⟩
      show tokens? ((Chain.mk f.text (g.text :: others.map Factor.text)).joined " and ").toList = _
      rw [Chain.joined_cons]
      exact tokens?_append_word (by decide) (by decide) scanned more

/-- **The text of terms has the tokens of their tree.** -/
theorem Terms.areConjunctions (terms : Terms) :
    ∃ ts c cs, tokens? terms.text.toList = some ts ∧ AreConjunctions ts c cs ∧
      cs.foldl .or c = terms.tree := by
  suffices ∃ ts, tokens? terms.text.toList = some ts ∧
      AreConjunctions ts ((terms.first.map Factor.tree).nested .and)
        (terms.others.map fun fs => (fs.map Factor.tree).nested .and) by
    obtain ⟨ts, scanned, h⟩ := this
    exact ⟨ts, _, _, scanned, h, rfl⟩
  obtain ⟨fs, others⟩ := terms
  induction others generalizing fs with
  | nil =>
      obtain ⟨ts, scanned, h⟩ := areFactors_of_chain fs
      exact ⟨ts, scanned, .last h⟩
  | cons gs others ih =>
      obtain ⟨ts, scanned, h⟩ := areFactors_of_chain fs
      obtain ⟨us, more, hs⟩ := ih gs
      refine ⟨ts ++ .word "or" :: us, ?_, .cons h (by decide) hs⟩
      show tokens? ((Chain.mk ((fs.map Factor.text).joined " and ")
        (((gs.map Factor.text).joined " and ") :: others.map fun fs =>
          (fs.map Factor.text).joined " and ")).joined " or ").toList = _
      rw [Chain.joined_cons]
      exact tokens?_append_word (by decide) (by decide) scanned more

/-- **Terms in parentheses are a factor again**, which stands for their tree. -/
def Terms.grouped (terms : Terms) : Factor where
  text := "(" ++ terms.text ++ ")"
  nots := 0
  primary := terms.tree
  reads := by
    obtain ⟨ts, c, cs, scanned, h, same⟩ := terms.areConjunctions
    refine ⟨[], .opening :: (ts ++ [.closing]), ?_, rfl, by simp, ?_⟩
    · rw [String.toList_append, String.toList_append]
      exact tokens?_parenthesized scanned
    · rw [← same]
      exact .group h

/-- A test is a factor. -/
def Factor.ofTest {text : String} {ts : List Token} {c : Condition}
    (scanned : tokens? text.toList = some ts) (h : IsTest ts c) : Factor where
  text := text
  nots := 0
  primary := c
  reads := ⟨[], ts, scanned, rfl, by simp, .test h⟩

/-- One `not` more in front of a factor. -/
def Factor.not (f : Factor) : Factor where
  text := "not " ++ f.text
  nots := f.nots + 1
  primary := f.primary
  reads := by
    obtain ⟨words, us, scanned, count, negations, h⟩ := f.reads
    refine ⟨"not" :: words, us, ?_, by rw [List.length_cons, count], ?_, h⟩
    · rw [String.toList_append]
      have word : tokens? ['n', 'o', 't'] = some [.word "not"] := by decide
      exact tokens?_append word scanned (d := ' ') (by decide)
    · intro w hw
      rcases List.mem_cons.1 hw with rfl | hw
      · decide
      · exact negations w hw

/-! ## §3. Statements. -/

/-- **Terms behind `where` are read as their tree**: a statement that has no
condition and does not end in a semicolon, followed by `where` and factors
joined by `and` and by `or`, has as its condition the disjunction of their
conjunctions, nested to the left, with each factor inside its negations. -/
theorem parseStatement_where {front : String} {s : Statement}
    (accepted : parseStatement front = .ok s) (unfiltered : s.condition? = none)
    (unended : (tokens? front.toList).bind (·.getLast?) ≠ some .semicolon) (terms : Terms) :
    parseStatement (front ++ " where " ++ terms.text) =
      .ok { s with condition? := some terms.tree } := by
  -- the statement in front ends where its source does
  obtain ⟨us, rest, scanned, h, ends⟩ := parseStatement_eq_ok_iff.1 accepted
  obtain ⟨ts, c, cs, behind, conjunctions, same⟩ := terms.areConjunctions
  have whole : rest = [] := by
    rcases ends with rfl | rfl
    · rfl
    · rw [scanned, Option.bind_some, List.getLast?_concat] at unended
      exact absurd rfl unended
  subst whole
  rw [List.append_nil] at scanned
  cases h with
  | mk isWord_select list ne isWord_from name filter =>
      cases filter with
      | present => cases unfiltered
      | absent =>
          have filtered := IsStatement.mk isWord_select list ne isWord_from name
            (.present (w := "where") (by decide) conjunctions)
          rw [same] at filtered
          refine parseStatement_eq_ok_iff.2 ⟨_, [], ?_, filtered, .inl rfl⟩
          rw [tokens?_append_word (w := "where") (by decide) (by decide) scanned behind]
          simp

/-- Two negations in front of a condition in parentheses, in a conjunction of
three that follows an `or`. -/
theorem parseStatement_where_grouped :
    ∃ terms : Terms,
      terms.text = "a is null or b > 1 and a is null and not not (a is null or b > 1)" ∧
      parseStatement ("select a from s" ++ " where " ++ terms.text) =
        .ok ⟨[⟨.column "a", none⟩], "s", some (.or (.isNull (.column "a") false)
          (.and (.and (.compare (.column "b") .greater (.literal (.integer 1)))
            (.isNull (.column "a") false))
            (.not (.not (.or (.isNull (.column "a") false)
              (.compare (.column "b") .greater (.literal (.integer 1))))))))⟩ := by
  have a : IsExpr [.word "a"] (.column "a") := .column (by decide)
  have b : IsExpr [.word "b"] (.column "b") := .column (by decide)
  have isNull : IsTest ([.word "a"] ++ [.word "is", .word "null"]) (.isNull (.column "a") false) :=
    .isNull a (by decide) (by decide)
  let null : Factor := .ofTest (show tokens? "a is null".toList = _ by decide +kernel) isNull
  let above : Factor := .ofTest (show tokens? "b > 1".toList = _ by decide +kernel)
    (.compare b .greater (.literal (.integer 1)))
  let group : Factor := Terms.grouped ⟨⟨null, []⟩, [⟨above, []⟩]⟩
  let terms : Terms := ⟨⟨null, []⟩, [⟨above, [null, group.not.not]⟩]⟩
  have front : IsStatement (.word "select" :: ([.word "a"] ++ [.word "from", .word "s"]))
      ⟨[⟨.column "a", none⟩], "s", none⟩ :=
    .mk (by decide) (.single (.unnamed a)) (by simp) (by decide) (.word (by decide)) .absent
  have accepted : parseStatement "select a from s" = .ok ⟨[⟨.column "a", none⟩], "s", none⟩ :=
    parseStatement_eq_ok_iff.2 ⟨_, [], by decide +kernel, front, .inl rfl⟩
  exact ⟨terms, rfl, parseStatement_where accepted rfl (by decide +kernel) terms⟩

end Recordwise.Query
