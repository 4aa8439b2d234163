/-
  Recordwise.Proofs.Query.Lexing
  ──────────────────────────────
  **The tokens of a layout.**

  A layout is read as one token for each of its lexemes, provided that no two
  lexemes run into each other where nothing stands between them.  `Meet` says
  which do not; `Readable` collects what the argument needs of the lexemes of
  a part of a statement, and holds of every part that is printable.  Main
  statements:

      Layout.endsBefore      — a token ends where the layout behind it begins
      tokens?_of_layout      — a layout is read as tokens its lexemes allow
      readable_statement     — the lexemes of a printable statement are readable
-/
import Mathlib.Data.List.Chain
import Recordwise.Proofs.Query.Scanning

namespace Recordwise.Query

open List (Forall₂ IsChain)

/-! ## §1. What lexemes and tokens have in common. -/

/-- Whether a lexeme is read back from its text. -/
def Lexeme.isPlain : Lexeme → Bool
  | exact t => t.isPlain
  | anyCase w => isWordText w

/-- Whether a lexeme is a number or a quoted text. -/
def Lexeme.isLiteral : Lexeme → Bool
  | exact t => t.isLiteral
  | anyCase _ => false

/-- Whether a lexeme is a comparison sign. -/
def Lexeme.isComparison : Lexeme → Bool
  | exact t => t.isComparison
  | anyCase _ => false

/-- Whether two lexemes stay apart with nothing between them: neither two
literals nor two comparison signs do. -/
def Lexeme.Meet (l m : Lexeme) : Prop :=
  (l.isLiteral = true → m.isLiteral = false) ∧ (l.isComparison = true → m.isComparison = false)

/-- The form of a word does not depend on its letter case. -/
theorem isWordText_asciiLowered (w : String) :
    isWordText (Text.asciiLowered w) = isWordText w := by
  unfold isWordText Text.asciiLowered
  rw [String.toList_ofList]
  cases w.toList with
  | nil => rfl
  | cons c cs =>
      have parts : (cs.map Text.asciiLower).all isWordPart = cs.all isWordPart := by
        rw [List.all_map]
        congr 1
        funext d
        exact isWordPart_asciiLower d
      show (isWordStart (Text.asciiLower c) && _) = _
      rw [isWordStart_asciiLower, parts]

theorem isPlain_of_allows {l : Lexeme} {t : Token} (h : l.Allows t) (plain : l.isPlain = true) :
    t.isPlain = true := by
  cases l with
  | exact u =>
      have same : t = u := h
      rw [same]
      exact plain
  | anyCase w =>
      obtain ⟨spelling, rfl, same⟩ := h
      show isWordText spelling = true
      rw [← isWordText_asciiLowered, same]
      exact plain

theorem kind_of_allows {l : Lexeme} {t : Token} (h : l.Allows t) :
    t.isLiteral = l.isLiteral ∧ t.isComparison = l.isComparison := by
  cases l with
  | exact u =>
      have same : t = u := h
      rw [same]
      exact ⟨rfl, rfl⟩
  | anyCase w =>
      obtain ⟨spelling, rfl, same⟩ := h
      exact ⟨rfl, rfl⟩

/-- How the text of a token can begin. -/
structure Token.BeginsWith (t : Token) (c : Char) : Prop where
  /-- With no separator. -/
  separator : isSeparator c = false
  /-- With no point. -/
  point : c ≠ '.'
  /-- With a quote only if it is a literal. -/
  quote : c = '\'' → t.isLiteral = true
  /-- With these signs only if it is a comparison. -/
  sign : c = '=' ∨ c = '>' → t.isComparison = true

theorem beginsWith_of_isWordPart {c : Char} (h : isWordPart c = true) (t : Token) :
    t.BeginsWith c where
  separator := by
    have other {d : Char} (hd : isWordPart d = false) : (c == d) = false :=
      beq_eq_false_iff_ne.2 (ne_of_isWordPart h hd)
    unfold isSeparator
    rw [other (by decide), other (by decide), other (by decide), other (by decide)]
    rfl
  point := ne_of_isWordPart h (by decide)
  quote := fun hc => absurd hc (ne_of_isWordPart h (by decide))
  sign := by
    rintro (hc | hc)
    · exact absurd hc (ne_of_isWordPart h (by decide))
    · exact absurd hc (ne_of_isWordPart h (by decide))

/-- A token begins with some character, and that one suits it. -/
theorem exists_beginsWith {t : Token} (plain : t.isPlain = true) :
    ∃ c cs, t.text.toList = c :: cs ∧ t.BeginsWith c := by
  have fixed {c : Char} (separator : isSeparator c = false) (point : c ≠ '.') (quote : c ≠ '\'')
      (sign : ¬ (c = '=' ∨ c = '>')) : t.BeginsWith c :=
    ⟨separator, point, fun h => absurd h quote, fun h => absurd h sign⟩
  cases t with
  | word w =>
      obtain ⟨c, cs, hw, start, -⟩ := isWordText_eq_true plain
      exact ⟨c, cs, hw, beginsWith_of_isWordPart (isWordPart_of_isWordStart start) _⟩
  | quotedName name => exact absurd plain (by simp [Token.isPlain])
  | parameter name =>
      exact ⟨'$', ['c', 't', 'x', '.'] ++ name.toList, text_parameter name,
        fixed (by decide) (by decide) (by decide) (by decide)⟩
  | comparison op =>
      refine ⟨op.symbol.toList.headD ' ', op.symbol.toList.tail, ?_, ?_, ?_, ?_, fun _ => rfl⟩
      · cases op <;> rfl
      · cases op <;> rfl
      · cases op <;> decide
      · cases op <;> decide
  | opening => exact ⟨'(', [], rfl, fixed (by decide) (by decide) (by decide) (by decide)⟩
  | closing => exact ⟨')', [], rfl, fixed (by decide) (by decide) (by decide) (by decide)⟩
  | comma => exact ⟨',', [], rfl, fixed (by decide) (by decide) (by decide) (by decide)⟩
  | semicolon => exact ⟨';', [], rfl, fixed (by decide) (by decide) (by decide) (by decide)⟩
  | literal v =>
      cases v with
      | integer n =>
          obtain ⟨d, ds, hd⟩ := List.exists_cons_of_ne_nil
            (Decimal.natText_ne_nil n.toInt.natAbs)
          rw [text_integer]
          unfold Decimal.intText
          split
          · exact ⟨'-', _, rfl, fixed (by decide) (by decide) (by decide) (by decide)⟩
          · have digit : Decimal.isDigit d = true :=
              Decimal.isDigit_of_mem_natText (by rw [hd]; exact List.mem_cons_self)
            exact ⟨d, ds, hd, beginsWith_of_isWordPart (isWordPart_of_isDigit digit) _⟩
      | text s =>
          exact ⟨'\'', doubleQuotes s.toList ++ ['\''], text_quoted s, by decide, by decide,
            fun _ => rfl, fun h => absurd h (by decide)⟩
      | null => exact absurd plain (by simp [Token.isPlain])
      | boolean b => exact absurd plain (by simp [Token.isPlain])
      | float x => exact absurd plain (by simp [Token.isPlain])

/-! ## §2. Whole layouts. -/

/-- A layout begins with a separator or like a token of its first lexeme. -/
theorem Layout.beginsWith {ls : List Lexeme} {cs : List Char} (h : Layout ls cs)
    (plain : ∀ l ∈ ls, l.isPlain = true) {d : Char} (hd : cs.head? = some d) :
    isSeparator d = true ∨ ∃ l ∈ ls.head?, ∃ t, l.Allows t ∧ t.BeginsWith d := by
  cases h with
  | nil blank => exact .inl (List.all_eq_true.1 blank d (List.mem_of_mem_head? hd))
  | @cons gap l t ls cs blank allowed apart rest =>
      cases gap with
      | cons x gap =>
          left
          have same : x = d := Option.some.inj hd
          rw [← same]
          exact List.all_eq_true.1 blank x List.mem_cons_self
      | nil =>
          right
          obtain ⟨c, r, text, begins⟩ := exists_beginsWith (isPlain_of_allows allowed
            (plain l List.mem_cons_self))
          rw [text] at hd
          have same : c = d := Option.some.inj hd
          rw [← same]
          exact ⟨l, rfl, t, allowed, begins⟩

/-- Where no two lexemes run into each other, a token ends where the layout
behind it begins. -/
theorem Layout.endsBefore {l : Lexeme} {ls : List Lexeme} {cs : List Char} {t : Token}
    (h : Layout ls cs) (plain : ∀ m ∈ ls, m.isPlain = true) (meet : IsChain Lexeme.Meet (l :: ls))
    (allowed : l.Allows t) {d : Char} (hd : cs.head? = some d) : t.EndsBefore d := by
  -- behind the token stands a separator or the first character of the next one
  rcases h.beginsWith plain hd with separator | ⟨m, hm, u, hu, begins⟩
  · have other {c : Char} (hc : isSeparator c = false) : d ≠ c := by
      rintro rfl
      rw [separator] at hc
      exact absurd hc (by decide)
    exact ⟨other (by decide), fun _ => other (by decide), fun _ => ⟨other (by decide),
      other (by decide)⟩⟩
  · obtain ⟨literals, comparisons⟩ := meet.rel_head? hm
    rw [← (kind_of_allows allowed).1, ← (kind_of_allows hu).1] at literals
    rw [← (kind_of_allows allowed).2, ← (kind_of_allows hu).2] at comparisons
    refine ⟨begins.point, ?_, ?_⟩
    · intro literal quote
      have no := literals literal
      rw [begins.quote quote] at no
      exact absurd no (by decide)
    · intro comparison
      have no := comparisons comparison
      constructor
      · intro sign
        rw [begins.sign (.inl sign)] at no
        exact absurd no (by decide)
      · intro sign
        rw [begins.sign (.inr sign)] at no
        exact absurd no (by decide)

theorem tokensWithin_of_layout {ls : List Lexeme} {cs : List Char} (h : Layout ls cs)
    (plain : ∀ l ∈ ls, l.isPlain = true) (meet : IsChain Lexeme.Meet ls) :
    ∃ ts, Forall₂ Lexeme.Allows ls ts ∧
      ∀ fuel, cs.length ≤ fuel → tokensWithin fuel cs = some ts := by
  induction h with
  | @nil gap blank =>
      refine ⟨[], .nil, ?_⟩
      intro fuel _
      have dropped : (gap ++ []).dropWhile isSeparator = [] :=
        List.dropWhile_append_of_pos (List.all_eq_true.1 blank)
      rw [List.append_nil] at dropped
      rw [tokensWithin.eq_def]
      simp only [dropped]
  | @cons gap l t ls cs blank allowed apart rest ih =>
      have plainRest : ∀ m ∈ ls, m.isPlain = true := fun m hm => plain m (List.mem_cons_of_mem l hm)
      have plainToken := isPlain_of_allows allowed (plain l List.mem_cons_self)
      obtain ⟨ts, hts, read⟩ := ih plainRest meet.tail
      obtain ⟨c, r, text, begins⟩ := exists_beginsWith plainToken
      have first : next? (t.text.toList ++ cs) = some (t, cs) :=
        next?_text plainToken apart fun d hd => rest.endsBefore plainRest meet allowed hd
      have dropped : (gap ++ (t.text.toList ++ cs)).dropWhile isSeparator = c :: (r ++ cs) := by
        rw [List.dropWhile_append_of_pos (List.all_eq_true.1 blank), text, List.cons_append,
          List.dropWhile_cons_of_neg (by rw [begins.separator]; decide)]
      rw [text, List.cons_append] at first
      refine ⟨t :: ts, .cons allowed hts, ?_⟩
      intro fuel enough
      rw [List.length_append, List.length_append, text, List.length_cons] at enough
      -- the token is not empty, so that the fuel suffices for the rest
      obtain ⟨n, rfl⟩ : ∃ n, fuel = n + 1 := ⟨fuel - 1, by omega⟩
      rw [tokensWithin.eq_def]
      simp only [dropped, first]
      rw [read n (by omega)]
      rfl

/-- **A layout is read as one token for each lexeme.** -/
theorem tokens?_of_layout {ls : List Lexeme} {cs : List Char} (h : Layout ls cs)
    (plain : ∀ l ∈ ls, l.isPlain = true) (meet : IsChain Lexeme.Meet ls) :
    ∃ ts, Forall₂ Lexeme.Allows ls ts ∧ tokens? cs = some ts := by
  obtain ⟨ts, hts, read⟩ := tokensWithin_of_layout h plain meet
  exact ⟨ts, hts, read cs.length (Nat.le_refl _)⟩

/-! ## §3. The lexemes of printable statements. -/

/-- What reading needs of the lexemes of a layout. -/
structure Readable (ls : List Lexeme) : Prop where
  /-- Each is read back from its text. -/
  plain : ∀ l ∈ ls, l.isPlain = true
  /-- No two neighbours run into each other. -/
  meet : IsChain Lexeme.Meet ls

/-- Whether a lexeme runs into no other: it is neither a literal nor a
comparison sign. -/
def Lexeme.isGlue (l : Lexeme) : Bool := l.isPlain && !l.isLiteral && !l.isComparison

theorem readable_nil : Readable [] := ⟨by simp, .nil⟩

theorem Readable.insert {ls ms : List Lexeme} (hl : Readable ls) (hm : Readable ms) {s : Lexeme}
    (plain : s.isPlain = true) (left : ∀ l ∈ ls, l.Meet s) (right : ∀ m ∈ ms, s.Meet m) :
    Readable (ls ++ s :: ms) := by
  constructor
  · intro l h
    rcases List.mem_append.1 h with h | h
    · exact hl.plain l h
    · rcases List.mem_cons.1 h with rfl | h
      · exact plain
      · exact hm.plain l h
  · refine hl.meet.append (hm.meet.cons ?_) ?_
    · intro m h
      exact right m (List.mem_of_mem_head? h)
    · intro l h m hs
      have same : s = m := Option.some.inj hs
      rw [← same]
      exact left l (List.mem_of_mem_getLast? h)

/-- Parts with glue between them. -/
theorem Readable.glue {ls ms : List Lexeme} (hl : Readable ls) (hm : Readable ms) {s : Lexeme}
    (h : s.isGlue = true) : Readable (ls ++ s :: ms) := by
  unfold Lexeme.isGlue at h
  rw [Bool.and_eq_true, Bool.and_eq_true, Bool.not_eq_true', Bool.not_eq_true'] at h
  obtain ⟨⟨plain, literal⟩, comparison⟩ := h
  refine hl.insert hm plain ?_ ?_
  · intro l _
    exact ⟨fun _ => literal, fun _ => comparison⟩
  · intro m _
    unfold Lexeme.Meet
    rw [literal, comparison]
    exact ⟨fun h => absurd h (by decide), fun h => absurd h (by decide)⟩

/-- A part with glue in front of it. -/
theorem Readable.cons {ms : List Lexeme} (hm : Readable ms) {s : Lexeme} (h : s.isGlue = true) :
    Readable (s :: ms) :=
  readable_nil.glue hm h

theorem readable_separated {parts : List (List Lexeme)} (h : ∀ part ∈ parts, Readable part) :
    Readable (separated parts) := by
  induction parts with
  | nil => exact readable_nil
  | cons part parts ih =>
      have first := h part List.mem_cons_self
      have others := ih fun q hq => h q (List.mem_cons_of_mem part hq)
      cases parts with
      | nil => exact first
      | cons next parts => exact first.glue others rfl

theorem isGlue_word {w : String} (h : isIdentifier w = true) :
    (Lexeme.exact (.word w)).isGlue = true := by
  show (isWordText w && !false && !false) = true
  rw [(isIdentifier_eq_true h).1]
  rfl

theorem readable_literal {v : Value} (h : isPlainLiteral v = true) :
    Readable [literalLexeme v] ∧ (literalLexeme v).isComparison = false := by
  have single {l : Lexeme} (plain : l.isPlain = true) : Readable [l] := by
    refine readable_nil.insert readable_nil plain ?_ ?_
    · intro m hm
      exact absurd hm List.not_mem_nil
    · intro m hm
      exact absurd hm List.not_mem_nil
  cases v with
  | null => exact ⟨single rfl, rfl⟩
  | boolean b => cases b <;> exact ⟨single rfl, rfl⟩
  | integer n => exact ⟨single rfl, rfl⟩
  | text s => exact ⟨single h, rfl⟩
  | float x => exact absurd h (by simp [isPlainLiteral])

/-- What stands in a call is a lexeme of an argument, or it is no comparison
sign. -/
theorem isComparison_of_mem_call {function : String} {args : List Expr} {l : Lexeme}
    (h : l ∈ (Expr.call function args).lexemes)
    (each : ∀ a ∈ args, ∀ l ∈ a.lexemes, l.isComparison = false) : l.isComparison = false := by
  unfold Expr.lexemes at h
  rw [Expr.lexemesOf_eq_map] at h
  rcases List.mem_cons.1 h with rfl | h
  · rfl
  · rcases List.mem_cons.1 h with rfl | h
    · rfl
    · rcases List.mem_append.1 h with inside | closing
      · rcases mem_separated inside with rfl | ⟨part, hpart, hl⟩
        · rfl
        · obtain ⟨a, ha, rfl⟩ := List.mem_map.1 hpart
          exact each a ha l hl
      · rw [List.mem_singleton.1 closing]
        rfl

/-- The lexemes of an expression are readable, and none is a comparison
sign. -/
theorem readable_expr {e : Expr} (h : e.isPrintable = true) :
    Readable e.lexemes ∧ ∀ l ∈ e.lexemes, l.isComparison = false := by
  have single {s : Lexeme} (glue : s.isGlue = true) (no : s.isComparison = false) :
      Readable [s] ∧ ∀ l ∈ [s], l.isComparison = false := by
    refine ⟨readable_nil.cons glue, ?_⟩
    intro l hl
    rw [List.mem_singleton.1 hl]
    exact no
  induction e using Expr.induction_args with
  | literal v =>
      obtain ⟨readable, no⟩ := readable_literal h
      refine ⟨readable, ?_⟩
      intro l hl
      rw [List.mem_singleton.1 hl]
      exact no
  | column name => exact single (isGlue_word h) rfl
  | parameter name =>
      have glue : (Lexeme.exact (.parameter name)).isGlue = true := by
        show (isIdentifier name && !false && !false) = true
        rw [show isIdentifier name = true from h]
        rfl
      exact single glue rfl
  | call function args ih =>
      have both : (isFunctionName function && Expr.arePrintable args) = true := h
      rw [Bool.and_eq_true, Expr.arePrintable_eq_all, List.all_eq_true] at both
      have named : isIdentifier function = true := (Bool.and_eq_true_iff.1 both.1).1
      have readable : ∀ part ∈ args.map Expr.lexemes, Readable part := by
        intro part hpart
        obtain ⟨a, ha, rfl⟩ := List.mem_map.1 hpart
        exact (ih a ha (both.2 a ha)).1
      constructor
      · unfold Expr.lexemes
        rw [Expr.lexemesOf_eq_map]
        have inside := readable_separated readable
        exact ((inside.glue readable_nil rfl).cons rfl).cons (isGlue_word named)
      · intro l hl
        exact isComparison_of_mem_call hl fun a ha => (ih a ha (both.2 a ha)).2

theorem readable_condition {c : Condition} (h : ∀ e ∈ c.expressions, e.isPrintable = true) :
    Readable c.lexemes := by
  induction c with
  | compare l op r =>
      obtain ⟨left, noLeft⟩ := readable_expr (h l (by simp [Condition.expressions]))
      obtain ⟨right, noRight⟩ := readable_expr (h r (by simp [Condition.expressions]))
      refine left.insert right rfl ?_ ?_
      · intro m hm
        exact ⟨fun _ => rfl, fun yes => absurd yes (by rw [noLeft m hm]; decide)⟩
      · intro m hm
        exact ⟨fun yes => absurd yes Bool.false_ne_true, fun _ => noRight m hm⟩
  | isNull e negated =>
      have operand := (readable_expr (h e (by simp [Condition.expressions]))).1
      cases negated with
      | true => exact operand.glue ((readable_nil.cons rfl).cons rfl) rfl
      | false => exact operand.glue (readable_nil.cons rfl) rfl
  | and l r hl hr =>
      have left := hl fun e he => h e (List.mem_append_left _ he)
      have right := hr fun e he => h e (List.mem_append_right _ he)
      exact (left.glue (right.glue readable_nil rfl) rfl).cons rfl
  | or l r hl hr =>
      have left := hl fun e he => h e (List.mem_append_left _ he)
      have right := hr fun e he => h e (List.mem_append_right _ he)
      exact (left.glue (right.glue readable_nil rfl) rfl).cons rfl
  | not c hc => exact (((hc h).glue readable_nil rfl).cons rfl).cons rfl

theorem readable_item {i : Item} (h : i.isPrintable = true) : Readable i.lexemes := by
  unfold Item.isPrintable at h
  rw [Bool.and_eq_true] at h
  have operand := (readable_expr h.1).1
  unfold Item.lexemes
  cases named : i.alias? with
  | none => exact operand
  | some name =>
      rw [named] at h
      exact operand.glue (readable_nil.cons (isGlue_word h.2)) rfl

/-- **The lexemes of a printable statement are readable**, with a semicolon
behind them or without. -/
theorem readable_statement {s : Statement} (h : s.isPrintable = true) :
    Readable s.lexemes ∧ Readable (s.lexemes ++ [.exact .semicolon]) := by
  unfold Statement.isPrintable at h
  rw [Bool.and_eq_true, Bool.and_eq_true, Bool.and_eq_true, List.all_eq_true] at h
  obtain ⟨⟨⟨-, items⟩, source⟩, filter⟩ := h
  have list : Readable (separated (s.items.map Item.lexemes)) := by
    refine readable_separated ?_
    intro part hpart
    obtain ⟨i, hi, rfl⟩ := List.mem_map.1 hpart
    exact readable_item (items i hi)
  have tail : Readable (filterLexemes s.condition?) := by
    cases filtered : s.condition? with
    | none => exact readable_nil
    | some c =>
        rw [filtered] at filter
        exact (readable_condition (List.all_eq_true.1 filter)).cons rfl
  have whole : Readable s.lexemes := (list.glue (tail.cons (isGlue_word source)) rfl).cons rfl
  exact ⟨whole, whole.glue readable_nil rfl⟩

end Recordwise.Query
