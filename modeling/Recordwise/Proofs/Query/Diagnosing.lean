/-
  Recordwise.Proofs.Query.Diagnosing
  ──────────────────────────────────
  **What a text of tokens is not blamed for.**

  The scanners for mistakes know quotes and parentheses and nothing of names
  between backticks.  On a text of tokens they see the quoted literals as the
  lexer does, as long as no such name contains a quote; the parentheses that
  they count are then those of the tokens, as long as no such name contains a
  parenthesis.  The tokens of an expression and of a statement balance.  Main
  statements:

      unterminatedLiteral_of_tokens? — no literal of tokens is left open
      openParens_of_areTokens        — the parentheses counted are the tokens'
      IsStatement.balanced           — a statement balances
      diagnoses_nothing              — an accepted text is blamed for nothing
                                       but for the names between backticks
-/
import Recordwise.Proofs.Query.Tokens

namespace Recordwise.Query

/-! ## §1. Quotes. -/

/-- Whether no name between backticks contains one of some characters. -/
def NamesAvoid (bad : List Char) (ts : List Token) : Prop :=
  ∀ w, Token.quotedName w ∈ ts → ∀ c ∈ w.toList, c ∉ bad

theorem NamesAvoid.tail {bad : List Char} {t : Token} {ts : List Token}
    (h : NamesAvoid bad (t :: ts)) : NamesAvoid bad ts :=
  fun w hw => h w (List.mem_cons_of_mem t hw)

theorem NamesAvoid.head {bad : List Char} {t : Token} {ts : List Token}
    (h : NamesAvoid bad (t :: ts)) : NamesAvoid bad [t] := fun w hw =>
  h w (List.mem_cons.2 (.inl (List.mem_singleton.1 hw)))

/-- A part without quotes opens none. -/
theorem openQuote_plain {text : List Char} (h : ∀ c ∈ text, c ≠ '\'' ∧ c ≠ '"') (column : Nat)
    (rest : List Char) :
    openQuote column none (text ++ rest) = openQuote (column + text.length) none rest := by
  induction text generalizing column with
  | nil => rfl
  | cons c text ih =>
      obtain ⟨single, double⟩ := h c List.mem_cons_self
      rw [List.cons_append, openQuote.eq_def]
      show openQuote (column + 1) (if c = '\'' ∨ c = '"' then some (c, column) else none) _ = _
      rw [if_neg (by simp [single, double]), ih fun d hd => h d (List.mem_cons_of_mem c hd),
        List.length_cons]
      congr 1
      omega

/-- Pieces of a literal leave its quote open. -/
theorem openQuote_piece {style : QuoteStyle} {c : Char} {piece : List Char}
    (h : SpellsChar style c piece) (column start : Nat) (rest : List Char) :
    openQuote column (some (style.quote, start)) (piece ++ rest) =
      openQuote (column + piece.length) (some (style.quote, start)) rest := by
  have escape (x : Char) : openQuote column (some (style.quote, start)) (['\\', x] ++ rest) =
      openQuote (column + 2) (some (style.quote, start)) rest := by
    show openQuote column (some (style.quote, start)) ('\\' :: x :: rest) = _
    rw [openQuote.eq_def]
    rfl
  cases h with
  | raw inside plain =>
      rw [List.singleton_append, openQuote.eq_def]
      cases rest with
      | nil => simp [inside, openQuote]
      | cons x r => simp [inside, plain]
  | doubled h =>
      cases style with
      | single =>
          cases h
          show openQuote column (some ('\'', start)) ('\'' :: '\'' :: rest) = _
          rw [openQuote.eq_def]
          rfl
      | double => cases h
  | escaped _ => exact escape c
  | newline => exact escape 'n'
  | tab => exact escape 't'
  | carriageReturn => exact escape 'r'
  | nul => exact escape '0'

theorem openQuote_pieces {style : QuoteStyle} {s : List Char} {pieces : List (List Char)}
    (h : List.Forall₂ (SpellsChar style) s pieces) (column start : Nat) (rest : List Char) :
    openQuote column (some (style.quote, start)) (pieces.flatten ++ rest) =
      openQuote (column + pieces.flatten.length) (some (style.quote, start)) rest := by
  induction h generalizing column with
  | nil => rfl
  | cons first others ih =>
      rw [List.flatten_cons, List.append_assoc, openQuote_piece first, ih, List.length_append,
        Nat.add_assoc]

/-- The quote that closes a literal closes it for the scanner. -/
theorem openQuote_close {style : QuoteStyle} {rest : List Char} (h : style.Closes rest)
    (column start : Nat) :
    openQuote column (some (style.quote, start)) (style.quote :: rest) =
      openQuote (column + 1) none rest := by
  rw [openQuote.eq_def]
  cases rest with
  | nil => simp [openQuote]
  | cons x r =>
      have alone : ¬ (style.quote = '\'' ∧ x = '\'') := by
        rintro ⟨single, rfl⟩
        cases style with
        | single => exact h '\'' rfl rfl
        | double => exact absurd single (by decide)
      simp [style.quote_ne_backslash, alone]

theorem openQuote_literal {style : QuoteStyle} {s : List Char} {pieces : List (List Char)}
    (h : List.Forall₂ (SpellsChar style) s pieces) {rest : List Char} (closes : style.Closes rest)
    (column : Nat) :
    openQuote column none (style.quote :: (pieces.flatten ++ [style.quote]) ++ rest) =
      openQuote (column + 1 + pieces.flatten.length + 1) none rest := by
  have opens : style.quote = '\'' ∨ style.quote = '"' := by cases style <;> simp [QuoteStyle.quote]
  rw [List.cons_append, List.append_assoc, List.singleton_append, openQuote.eq_def]
  show openQuote (column + 1) (if style.quote = '\'' ∨ style.quote = '"' then _ else none) _ = _
  rw [if_pos opens, openQuote_pieces h, openQuote_close closes]

theorem ne_of_isPlainPart {c d : Char} (h : isPlainPart c = true) (hd : isPlainPart d = false) :
    c ≠ d := by
  rintro rfl
  rw [h] at hd
  exact absurd hd (by decide)

/-- No token leaves a quote open. -/
theorem openQuote_token {text rest : List Char} {t : Token} (h : IsTokenText rest text t)
    (names : NamesAvoid ['\'', '"'] [t]) (column : Nat) :
    ∃ k, openQuote column none (text ++ rest) = openQuote k none rest := by
  cases h with
  | plain ne parts =>
      refine ⟨_, openQuote_plain ?_ column rest⟩
      exact fun c hc => ⟨ne_of_isPlainPart (parts c hc) (by decide),
        ne_of_isPlainPart (parts c hc) (by decide)⟩
  | opening => exact ⟨_, openQuote_plain (by simp) column rest⟩
  | closing => exact ⟨_, openQuote_plain (by simp) column rest⟩
  | quoted style spelled closes => exact ⟨_, openQuote_literal spelled closes column⟩
  | quotedName w inside =>
      refine ⟨_, openQuote_plain ?_ column rest⟩
      have free := names (String.ofList w) List.mem_cons_self
      rw [String.toList_ofList] at free
      intro c hc
      simp only [List.mem_cons, List.mem_append, List.not_mem_nil, or_false] at hc
      rcases hc with rfl | hc | rfl
      · decide
      · simpa using free c hc
      · decide

theorem plain_of_blank {gap : List Char} (blank : ∀ c ∈ gap, isSeparator c = true) :
    ∀ c ∈ gap, (c ≠ '\'' ∧ c ≠ '"') ∧ c ≠ '(' ∧ c ≠ ')' := by
  intro c hc
  have other {d : Char} (hd : isSeparator d = false) : c ≠ d := by
    rintro rfl
    rw [blank c hc] at hd
    exact absurd hd (by decide)
  exact ⟨⟨other (by decide), other (by decide)⟩, other (by decide), other (by decide)⟩

/-- **No literal of tokens is left open**, accepted or not: what is reported
is no quote of a token, unless of a name between backticks. -/
theorem unterminatedLiteral_of_tokens? {cs : List Char} {ts : List Token} (h : tokens? cs = some ts)
    (names : NamesAvoid ['\'', '"'] ts) : unterminatedLiteral cs = none := by
  suffices ∀ column, openQuote column none cs = none from this 1
  rw [tokens?_eq_some_iff] at h
  induction h with
  | nil blank => exact openQuote_of_unquoted fun c hc => (plain_of_blank blank c hc).1
  | cons blank first others ih =>
      intro column
      obtain ⟨text, shape, rfl⟩ := exists_text_of_next? first
      obtain ⟨k, passed⟩ := openQuote_token shape names.head _
      rw [openQuote_plain fun c hc => (plain_of_blank blank c hc).1, passed, ih names.tail]

/-! ## §2. Parentheses. -/

/-- The parentheses left open behind tokens where `depth` were open in front,
or -1 as soon as one closes that was never opened. -/
def level (depth : Int) : List Token → Int
  | [] => depth
  | .opening :: ts => level (depth + 1) ts
  | .closing :: ts => if depth - 1 < 0 then depth - 1 else level (depth - 1) ts
  | _ :: ts => level depth ts

theorem level_of_isMarked {t : Token} (h : t.isMarked = false) (depth : Int) (ts : List Token) :
    level depth (t :: ts) = level depth ts := by
  cases t <;> first | rfl | cases h

/-- A part without quotes and parentheses counts for nothing. -/
theorem openParens_plain {text : List Char}
    (h : ∀ c ∈ text, (c ≠ '\'' ∧ c ≠ '"') ∧ c ≠ '(' ∧ c ≠ ')') (depth : Int) (rest : List Char) :
    openParens depth none (text ++ rest) = openParens depth none rest := by
  induction text with
  | nil => rfl
  | cons c text ih =>
      obtain ⟨⟨single, double⟩, opening, closing⟩ := h c List.mem_cons_self
      rw [List.cons_append, openParens.eq_def]
      simp only [single, double, opening, closing, or_self, if_false]
      exact ih fun d hd => h d (List.mem_cons_of_mem c hd)

theorem openParens_piece {style : QuoteStyle} {c : Char} {piece : List Char}
    (h : SpellsChar style c piece) (depth : Int) (rest : List Char) :
    openParens depth (some style.quote) (piece ++ rest) =
      openParens depth (some style.quote) rest := by
  have escape (x : Char) : openParens depth (some style.quote) (['\\', x] ++ rest) =
      openParens depth (some style.quote) rest := by
    show openParens depth (some style.quote) ('\\' :: x :: rest) = _
    rw [openParens.eq_def]
    rfl
  cases h with
  | raw inside plain =>
      rw [List.singleton_append, openParens.eq_def]
      cases rest with
      | nil => rfl
      | cons x r => simp [inside, plain]
  | doubled h =>
      cases style with
      | single =>
          cases h
          -- closed by the first quote, and opened again by the second
          show openParens depth (some '\'') ('\'' :: '\'' :: rest) = _
          rw [openParens.eq_def]
          rfl
      | double => cases h
  | escaped _ => exact escape c
  | newline => exact escape 'n'
  | tab => exact escape 't'
  | carriageReturn => exact escape 'r'
  | nul => exact escape '0'

theorem openParens_literal {style : QuoteStyle} {s : List Char} {pieces : List (List Char)}
    (h : List.Forall₂ (SpellsChar style) s pieces) (depth : Int) (rest : List Char) :
    openParens depth none (style.quote :: (pieces.flatten ++ [style.quote]) ++ rest) =
      openParens depth none rest := by
  have inside : openParens depth (some style.quote) (pieces.flatten ++ style.quote :: rest) =
      openParens depth (some style.quote) (style.quote :: rest) := by
    induction h with
    | nil => rfl
    | cons first others ih => rw [List.flatten_cons, List.append_assoc, openParens_piece first, ih]
  have closes : openParens depth (some style.quote) (style.quote :: rest) =
      openParens depth none rest := by
    rw [openParens.eq_def]
    cases rest with
    | nil => rfl
    | cons x r => simp [style.quote_ne_backslash]
  have opens : style.quote = '\'' ∨ style.quote = '"' := by cases style <;> simp [QuoteStyle.quote]
  rw [List.cons_append, List.append_assoc, List.singleton_append, openParens.eq_def]
  simp only [opens, if_true]
  rw [inside, closes]

/-- The parentheses counted in the text of a token are the token's. -/
theorem openParens_token {text rest : List Char} {t : Token} (h : IsTokenText rest text t)
    (names : NamesAvoid ['\'', '"', '(', ')'] [t]) {us : List Token}
    (behind : ∀ depth, openParens depth none rest = level depth us) (depth : Int) :
    openParens depth none (text ++ rest) = level depth (t :: us) := by
  cases h with
  | plain ne parts kind =>
      rw [level_of_isMarked kind, ← behind]
      refine openParens_plain (fun c hc => ?_) depth rest
      have plain {d : Char} : isPlainPart d = false → c ≠ d := ne_of_isPlainPart (parts c hc)
      exact ⟨⟨plain (by decide), plain (by decide)⟩, plain (by decide), plain (by decide)⟩
  | opening => exact behind (depth + 1)
  | closing =>
      show (if depth - 1 < 0 then depth - 1 else openParens (depth - 1) none rest) = _
      rw [behind]
      rfl
  | quoted style spelled closes => exact (openParens_literal spelled depth rest).trans (behind depth)
  | quotedName w inside =>
      refine (openParens_plain ?_ depth rest).trans (behind depth)
      have free := names (String.ofList w) List.mem_cons_self
      rw [String.toList_ofList] at free
      intro c hc
      simp only [List.mem_cons, List.mem_append, List.not_mem_nil, or_false] at hc
      rcases hc with rfl | hc | rfl
      · decide
      · simpa [and_assoc] using free c hc
      · decide

/-- **The parentheses counted are the tokens'.** -/
theorem openParens_of_areTokens {cs : List Char} {ts : List Token} (h : AreTokens cs ts)
    (names : NamesAvoid ['\'', '"', '(', ')'] ts) (depth : Int) :
    openParens depth none cs = level depth ts := by
  induction h generalizing depth with
  | nil blank => exact openParens_of_plain (plain_of_blank blank) depth
  | cons blank first others ih =>
      obtain ⟨text, shape, rfl⟩ := exists_text_of_next? first
      rw [openParens_plain (plain_of_blank blank)]
      exact openParens_token shape names.head (ih names.tail) depth

/-! ## §3. Balance. -/

/-- Whether tokens close what they open and nothing else. -/
def Balanced (ts : List Token) : Prop :=
  ∀ (depth : Int) (rest : List Token), 0 ≤ depth → level depth (ts ++ rest) = level depth rest

theorem balanced_nil : Balanced [] := fun _ _ _ => rfl

theorem Balanced.append {ts us : List Token} (hts : Balanced ts) (hus : Balanced us) :
    Balanced (ts ++ us) := by
  intro depth rest nonneg
  rw [List.append_assoc, hts depth _ nonneg, hus depth rest nonneg]

/-- Whether a token is a parenthesis. -/
def Token.isParenthesis : Token → Bool
  | .opening | .closing => true
  | _ => false

theorem Balanced.cons {t : Token} {ts : List Token} (h : Balanced ts)
    (kind : t.isParenthesis = false) : Balanced (t :: ts) := by
  intro depth rest nonneg
  have skips : level depth (t :: (ts ++ rest)) = level depth (ts ++ rest) := by
    cases t <;> first | rfl | cases kind
  rw [List.cons_append, skips, h depth rest nonneg]

/-- Balanced tokens in parentheses. -/
theorem Balanced.group {ts : List Token} (h : Balanced ts) :
    Balanced (.opening :: (ts ++ [.closing])) := by
  intro depth rest nonneg
  have inside : level (depth + 1) (ts ++ .closing :: rest) = level (depth + 1) (.closing :: rest) :=
    h (depth + 1) _ (by omega)
  have closes : level (depth + 1) (.closing :: rest) = level depth rest := by
    show (if depth + 1 - 1 < 0 then depth + 1 - 1 else level (depth + 1 - 1) rest) = _
    rw [if_neg (by omega), Int.add_sub_cancel]
  rw [List.cons_append, List.append_assoc]
  exact inside.trans closes

theorem balanced_intercalate {parts : List (List Token)} (h : ∀ ts ∈ parts, Balanced ts) :
    Balanced (List.intercalate [.comma] parts) := by
  induction parts with
  | nil => exact balanced_nil
  | cons ts parts ih =>
      have first := h ts List.mem_cons_self
      have others := ih fun us hus => h us (List.mem_cons_of_mem ts hus)
      by_cases last : parts = []
      · subst last
        rw [List.intercalate_singleton]
        exact first
      · rw [List.intercalate_cons_of_ne_nil last, List.append_assoc, List.singleton_append]
        exact first.append (others.cons rfl)

/-- **An expression balances.** -/
theorem IsExpr.balanced {ts : List Token} {e : Expr} (h : IsExpr ts e) : Balanced ts := by
  induction h with
  | literal | parameter | quotedName | keyword | column =>
      exact balanced_nil.cons rfl
  | call free each ih =>
      refine (balanced_intercalate ?_).group.cons rfl
      intro ts hts
      obtain ⟨a, ha, rfl⟩ := List.mem_map.1 hts
      exact ih a ha
  | group inside ih => exact ih.group

theorem IsTest.balanced {ts : List Token} {c : Condition} (h : IsTest ts c) : Balanced ts := by
  cases h with
  | compare left op right => exact left.balanced.append (right.balanced.cons rfl)
  | isNull operand =>
      exact operand.balanced.append
        ((balanced_nil.cons rfl).cons rfl)
  | isNotNull operand =>
      exact operand.balanced.append
        (((balanced_nil.cons rfl).cons rfl).cons rfl)

/-- A condition balances. -/
theorem AreConjunctions.balanced {ts : List Token} {c : Condition} {cs : List Condition}
    (h : AreConjunctions ts c cs) : Balanced ts := by
  -- the words between the parts are no parentheses
  refine AreConjunctions.induction (F := fun ts _ => Balanced ts) (A := fun ts _ _ => Balanced ts)
    (O := fun ts _ _ => Balanced ts) ?_ ?_ ?_ ?_ ?_ ?_ ?_ h
  · exact fun h => h.balanced
  · exact fun _ h => h.cons rfl
  · exact fun h => h.group
  · exact fun h => h
  · exact fun first _ others => first.append (others.cons rfl)
  · exact fun h => h
  · exact fun first _ others => first.append (others.cons rfl)

theorem IsName.balanced {t : Token} {w : String} (h : IsName t w) {ts : List Token}
    (behind : Balanced ts) : Balanced (t :: ts) := by
  cases h with
  | word => exact behind.cons rfl
  | quotedName => exact behind.cons rfl

theorem IsItem.balanced {ts : List Token} {i : Item} (h : IsItem ts i) : Balanced ts := by
  cases h with
  | unnamed h => exact h.balanced
  | named h isWord_as name => exact h.balanced.append ((name.balanced balanced_nil).cons rfl)

theorem IsFilter.balanced {ts : List Token} {c? : Option Condition} (h : IsFilter ts c?) :
    Balanced ts := by
  cases h with
  | absent => exact balanced_nil
  | present isWord_where h => exact h.balanced.cons rfl

/-- **A statement balances.** -/
theorem IsStatement.balanced {ts : List Token} {s : Statement} (h : IsStatement ts s) :
    Balanced ts := by
  cases h with
  | mk isWord_select list ne isWord_from name filter =>
      obtain ⟨parts, each, rfl, -⟩ := list.exists_parts
      have entries : Balanced (List.intercalate [.comma] (parts.map (·.1))) := by
        refine balanced_intercalate fun us hus => ?_
        obtain ⟨p, hp, rfl⟩ := List.mem_map.1 hus
        exact (each p hp).balanced
      exact (entries.append ((name.balanced filter.balanced).cons rfl)).cons rfl

theorem parenImbalance_of_balanced {cs : List Char} {ts : List Token} (h : tokens? cs = some ts)
    (balanced : Balanced ts) (names : NamesAvoid ['\'', '"', '(', ')'] ts) :
    parenImbalance cs = none := by
  have ends : level 0 (ts ++ []) = level 0 [] := balanced 0 [] (Int.le_refl 0)
  rw [List.append_nil] at ends
  unfold parenImbalance
  rw [openParens_of_areTokens (tokens?_eq_some_iff.1 h) names, ends]
  rfl

/-! ## §4. Accepted texts. -/

/-- **An accepted text is blamed for nothing**, but for the names between
backticks: where none of them contains a quote, no literal is reported as
open, and where none contains a parenthesis either, none is reported as left
over. -/
theorem diagnoses_nothing {text : String}
    (accepted : (∃ s, parseStatement text = .ok s) ∨ ∃ e, parseExpr text = .ok e) :
    ∃ ts, tokens? text.toList = some ts ∧
      (NamesAvoid ['\'', '"'] ts → unterminatedLiteral text.toList = none) ∧
      (NamesAvoid ['\'', '"', '(', ')'] ts → parenImbalance text.toList = none) := by
  obtain ⟨ts, scanned, balanced⟩ : ∃ ts, tokens? text.toList = some ts ∧ Balanced ts := by
    rcases accepted with ⟨s, read⟩ | ⟨e, read⟩
    · obtain ⟨us, rest, scanned, h, ends⟩ := parseStatement_eq_ok_iff.1 read
      refine ⟨_, scanned, h.balanced.append ?_⟩
      rcases ends with rfl | rfl
      · exact balanced_nil
      · exact balanced_nil.cons rfl
    · obtain ⟨us, scanned, h⟩ := parseExpr_eq_ok_iff.1 read
      exact ⟨us, scanned, h.balanced⟩
  exact ⟨ts, scanned, unterminatedLiteral_of_tokens? scanned,
    parenImbalance_of_balanced scanned balanced⟩

/-- A parenthesis in a literal, and a name between backticks with a blank. -/
theorem diagnoses_nothing_literal :
    parseStatement "select f(')') from `s t`" =
        .ok ⟨[⟨.call "f" [.literal (.text ")")], none⟩], "s t", none⟩ ∧
      unterminatedLiteral "select f(')') from `s t`".toList = none ∧
      parenImbalance "select f(')') from `s t`".toList = none := by
  have tokens : tokens? "select f(')') from `s t`".toList = some [.word "select", .word "f",
      .opening, .literal (.text ")"), .closing, .word "from", .quotedName "s t"] := by decide +kernel
  have accepted : parseStatement "select f(')') from `s t`" =
      .ok ⟨[⟨.call "f" [.literal (.text ")")], none⟩], "s t", none⟩ := by
    unfold parseStatement Statement.ofText?
    rw [tokens]
    rfl
  obtain ⟨ts, scanned, closed, balanced⟩ := diagnoses_nothing (.inl ⟨_, accepted⟩)
  obtain rfl : _ = ts := Option.some.inj (tokens.symm.trans scanned)
  refine ⟨accepted, closed ?_, balanced ?_⟩
  all_goals
    intro w hw
    obtain rfl : w = "s t" := by simpa using hw
    simp

/-- A quote in a name between backticks is taken for an open literal, and a
parenthesis in one is counted. -/
theorem diagnoses_name :
    parseStatement "select `it's` from s" = .ok ⟨[⟨.column "it's", none⟩], "s", none⟩ ∧
      unterminatedLiteral "select `it's` from s".toList = some 11 ∧
      parseStatement "select `f(` from s" = .ok ⟨[⟨.column "f(", none⟩], "s", none⟩ ∧
      parenImbalance "select `f(` from s".toList = some 1 := by
  have quote : tokens? "select `it's` from s".toList = some [.word "select", .quotedName "it's",
      .word "from", .word "s"] := by decide +kernel
  have parenthesis : tokens? "select `f(` from s".toList = some [.word "select", .quotedName "f(",
      .word "from", .word "s"] := by decide +kernel
  refine ⟨?_, by decide +kernel, ?_, by decide +kernel⟩
  · unfold parseStatement Statement.ofText?
    rw [quote]
    rfl
  · unfold parseStatement Statement.ofText?
    rw [parenthesis]
    rfl

end Recordwise.Query
