/-
  Recordwise.Proofs.Query.Quoting
  ───────────────────────────────
  **Quoted literals.**

  A character of a literal is written as itself, behind a backslash, by a
  letter behind a backslash when it is a control character with a letter, or
  twice when it is a single quote between single quotes.  Each such spelling
  is a piece of the literal.  Scanning does two things at once: it cuts the
  text into pieces, up to the closing quote, and it folds each piece into its
  character.  `cutQuoted` and `foldQuoted` are the two as passes of their own,
  the second over a text that the first has already left behind.  Main
  statements:

      quoted_induction     — a text where a literal goes on closes it, begins
                             with a piece, or ends too early
      scanQuoted_pieces    — pieces are read back as what they spell
      scanQuoted_eq_map    — scanning is cutting, then folding what was cut
      foldQuoted_cutQuoted — folding cuts where cutting did
      parseExpr_between    — the pieces of a text between quotes are that
                             literal, and every text has some
-/
import Mathlib.Data.List.Forall2
import Recordwise.Proofs.Query.Accepting

namespace Recordwise.Query

open List (Forall₂)

/-! ## §1. Pieces. -/

/-- The two kinds of quote. -/
inductive QuoteStyle where
  /-- Between single quotes. -/
  | single
  /-- Between double quotes. -/
  | double

/-- The quote of a style. -/
def QuoteStyle.quote : QuoteStyle → Char
  | single => '\''
  | double => '"'

/-- The character that is written twice to stand for itself once. -/
def QuoteStyle.doubled? : QuoteStyle → Option Char
  | single => some '\''
  | double => none

/-- A spelling of one character between two quotes. -/
inductive SpellsChar (style : QuoteStyle) : Char → List Char → Prop
  | raw {c : Char} (inside : c ≠ style.quote) (plain : c ≠ '\\') : SpellsChar style c [c]
  | doubled {c : Char} (h : style.doubled? = some c) : SpellsChar style c [c, c]
  | escaped {c : Char} (noLetter : c ∉ ['n', 't', 'r', '0']) : SpellsChar style c ['\\', c]
  | newline : SpellsChar style '\n' ['\\', 'n']
  | tab : SpellsChar style '\t' ['\\', 't']
  | carriageReturn : SpellsChar style '\r' ['\\', 'r']
  | nul : SpellsChar style '\x00' ['\\', '0']

/-- Pieces between their quotes. -/
def QuoteStyle.between (style : QuoteStyle) (pieces : List (List Char)) : String :=
  String.ofList (style.quote :: (pieces.flatten ++ [style.quote]))

variable {style : QuoteStyle}

theorem QuoteStyle.quote_ne_backslash (style : QuoteStyle) : style.quote ≠ '\\' := by
  cases style <;> decide

theorem QuoteStyle.eq_quote_of_doubled {c : Char} (h : style.doubled? = some c) :
    c = style.quote := by
  cases style with
  | single => exact (Option.some.inj h).symm
  | double => cases h

/-- What a backslash and a character behind it spell. -/
theorem spellsChar_backslash (style : QuoteStyle) (x : Char) :
    SpellsChar style (unescapeChar x) ['\\', x] := by
  unfold unescapeChar
  split
  · rename_i h; subst h; exact .newline
  split
  · rename_i h; subst h; exact .tab
  split
  · rename_i h; subst h; exact .carriageReturn
  split
  · rename_i h; subst h; exact .nul
  · exact .escaped (by simp [*])

/-- A quote or a backslash has a spelling behind a backslash, any other
character as itself. -/
theorem exists_spellsChar (style : QuoteStyle) (c : Char) : ∃ piece, SpellsChar style c piece := by
  by_cases special : c = style.quote ∨ c = '\\'
  · refine ⟨['\\', c], .escaped ?_⟩
    rcases special with rfl | rfl
    · cases style <;> decide
    · decide
  · rw [not_or] at special
    exact ⟨[c], .raw special.1 special.2⟩

theorem exists_pieces (style : QuoteStyle) (s : List Char) :
    ∃ pieces, Forall₂ (SpellsChar style) s pieces := by
  induction s with
  | nil => exact ⟨[], .nil⟩
  | cons c s ih =>
      obtain ⟨piece, first⟩ := exists_spellsChar style c
      obtain ⟨pieces, others⟩ := ih
      exact ⟨piece :: pieces, .cons first others⟩

/-- Whether a quote in front of a text closes a literal. -/
def QuoteStyle.Closes (style : QuoteStyle) (rest : List Char) : Prop :=
  ∀ c, style.doubled? = some c → rest.head? ≠ some c

/-- A text where a literal goes on closes it, begins with a piece of it, or
ends before it is closed. -/
theorem quoted_induction (style : QuoteStyle) {P : List Char → Prop}
    (close : ∀ rest, style.Closes rest → P (style.quote :: rest))
    (piece : ∀ c piece rest, SpellsChar style c piece → P rest → P (piece ++ rest))
    (nil : P []) (backslash : P ['\\']) : ∀ cs, P cs
  -- the tests in the order of the grammar: a pair of characters before one
  | [] => nil
  | [c] => by
      by_cases escape : c = '\\'
      · subst escape; exact backslash
      by_cases quote : c = style.quote
      · subst quote; exact close [] fun _ _ => by simp
      · exact piece c [c] [] (.raw quote escape) nil
  | c :: x :: cs => by
      by_cases escape : c = '\\'
      · subst escape
        exact piece _ ['\\', x] cs (spellsChar_backslash style x)
          (quoted_induction style close piece nil backslash cs)
      by_cases double : style.doubled? = some c ∧ x = c
      · obtain ⟨h, rfl⟩ := double
        exact piece x [x, x] cs (.doubled h) (quoted_induction style close piece nil backslash cs)
      by_cases quote : c = style.quote
      · subst quote
        refine close (x :: cs) ?_
        rintro d h same
        have hd : d = style.quote := QuoteStyle.eq_quote_of_doubled h
        subst hd
        exact double ⟨h, Option.some.inj same⟩
      · exact piece c [c] (x :: cs) (.raw quote escape)
          (quoted_induction style close piece nil backslash (x :: cs))

/-! ## §2. Scanning. -/

theorem scanQuoted_backslash (quote x : Char) (cs : List Char) :
    scanQuoted quote ('\\' :: x :: cs) =
      (scanQuoted quote cs).map fun p => (unescapeChar x :: p.1, p.2) := by
  rw [scanQuoted.eq_def]
  rfl

theorem unescapeChar_of_notMem {c : Char} (h : c ∉ ['n', 't', 'r', '0']) : unescapeChar c = c := by
  simp only [List.mem_cons, List.not_mem_nil, or_false, not_or] at h
  unfold unescapeChar
  rw [if_neg h.1, if_neg h.2.1, if_neg h.2.2.1, if_neg h.2.2.2]

/-- A quote that is not doubled closes the literal. -/
theorem scanQuoted_quote {rest : List Char} (h : style.Closes rest) :
    scanQuoted style.quote (style.quote :: rest) = some ([], rest) := by
  rw [scanQuoted.eq_def]
  show (if style.quote = '\\' then _ else _) = _
  rw [if_neg style.quote_ne_backslash, if_pos rfl]
  cases rest with
  | nil => rfl
  | cons x r =>
      have alone : ¬ (x = '\'' ∧ style.quote = '\'') := by
        rintro ⟨rfl, single⟩
        cases style with
        | single => exact h '\'' rfl rfl
        | double => exact absurd single (by decide)
      show (if x = '\'' ∧ style.quote = '\'' then _ else _) = _
      rw [if_neg alone]

/-- A piece is folded into the character that it spells. -/
theorem scanQuoted_piece {c : Char} {piece : List Char} (h : SpellsChar style c piece)
    (cs : List Char) :
    scanQuoted style.quote (piece ++ cs) =
      (scanQuoted style.quote cs).map fun p => (c :: p.1, p.2) := by
  cases h with
  | raw inside plain =>
      rw [List.singleton_append, scanQuoted.eq_def]
      simp only [plain, inside, if_false]
  | doubled h =>
      cases style with
      | single => cases h; exact scanQuoted_double cs
      | double => cases h
  | escaped noLetter =>
      show scanQuoted style.quote ('\\' :: c :: cs) = _
      rw [scanQuoted_backslash, unescapeChar_of_notMem noLetter]
  | newline => exact scanQuoted_backslash _ 'n' cs
  | tab => exact scanQuoted_backslash _ 't' cs
  | carriageReturn => exact scanQuoted_backslash _ 'r' cs
  | nul => exact scanQuoted_backslash _ '0' cs

theorem scanQuoted_nil (quote : Char) : scanQuoted quote [] = none := by
  rw [scanQuoted.eq_def]

theorem scanQuoted_backslash_nil (quote : Char) : scanQuoted quote ['\\'] = none := by
  rw [scanQuoted.eq_def]
  rfl

/-- **Pieces are read back as what they spell**, up to the quote that closes
the literal. -/
theorem scanQuoted_pieces {s : List Char} {pieces : List (List Char)}
    (h : Forall₂ (SpellsChar style) s pieces) {rest : List Char} (stop : style.Closes rest) :
    scanQuoted style.quote (pieces.flatten ++ style.quote :: rest) = some (s, rest) := by
  induction h with
  | nil => exact scanQuoted_quote stop
  | cons first others ih =>
      rw [List.flatten_cons, List.append_assoc, scanQuoted_piece first, ih]
      rfl

/-- What is read was spelled. -/
theorem exists_pieces_of_scanQuoted {cs s rest : List Char}
    (h : scanQuoted style.quote cs = some (s, rest)) :
    ∃ pieces, Forall₂ (SpellsChar style) s pieces ∧
      cs = pieces.flatten ++ style.quote :: rest ∧ style.Closes rest := by
  induction cs using quoted_induction style generalizing s with
  | close r stop =>
      rw [scanQuoted_quote stop] at h
      cases h
      exact ⟨[], .nil, rfl, stop⟩
  | piece c piece r first ih =>
      rw [scanQuoted_piece first] at h
      obtain ⟨⟨t, u⟩, found, same⟩ := Option.map_eq_some_iff.1 h
      cases same
      obtain ⟨pieces, each, shape, stop⟩ := ih found
      exact ⟨piece :: pieces, .cons first each,
        by rw [shape, List.flatten_cons, List.append_assoc], stop⟩
  | nil => rw [scanQuoted_nil] at h; cases h
  | backslash => rw [scanQuoted_backslash_nil] at h; cases h

/-! ## §3. Cutting and folding. -/

/-- The pieces up to the closing quote, and the rest behind it: a doubled
quote, a backslash with the character behind it, or any other character but
the quote and the backslash. -/
def cutQuoted (style : QuoteStyle) : List Char → Option (List (List Char) × List Char)
  | [] => none
  | [c] => if c = style.quote then some ([], []) else none
  | c :: x :: cs =>
    if (style.doubled? = some c ∧ x = c) ∨ c = '\\' then
      (cutQuoted style cs).map fun p => ([c, x] :: p.1, p.2)
    else if c = style.quote then some ([], x :: cs)
    else (cutQuoted style (x :: cs)).map fun p => ([c] :: p.1, p.2)

/-- The steps of a pass over the text between two quotes: what each step takes
and the character it makes of that. -/
def foldQuoted (doubled? : Option Char) : List Char → List (List Char × Char)
  | [] => []
  | [c] => [([c], c)]
  | c :: x :: cs =>
    if c = '\\' then ([c, x], unescapeChar x) :: foldQuoted doubled? cs
    else if doubled? = some c ∧ x = c then ([c, x], c) :: foldQuoted doubled? cs
    else ([c], c) :: foldQuoted doubled? (x :: cs)

theorem cutQuoted_quote {rest : List Char} (h : style.Closes rest) :
    cutQuoted style (style.quote :: rest) = some ([], rest) := by
  cases rest with
  | nil => rw [cutQuoted, if_pos rfl]
  | cons x r =>
      have goes : ¬ ((style.doubled? = some style.quote ∧ x = style.quote) ∨
          style.quote = '\\') := by
        rintro (⟨double, rfl⟩ | escape)
        · exact h _ double rfl
        · exact style.quote_ne_backslash escape
      rw [cutQuoted, if_neg goes, if_pos rfl]

/-- A piece is cut off as one piece. -/
theorem cutQuoted_piece {c : Char} {piece : List Char} (h : SpellsChar style c piece)
    (cs : List Char) :
    cutQuoted style (piece ++ cs) = (cutQuoted style cs).map fun p => (piece :: p.1, p.2) := by
  have pair {c x : Char} (h : (style.doubled? = some c ∧ x = c) ∨ c = '\\') :
      cutQuoted style ([c, x] ++ cs) = (cutQuoted style cs).map fun p => ([c, x] :: p.1, p.2) := by
    show cutQuoted style (c :: x :: cs) = _
    rw [cutQuoted, if_pos h]
  cases h with
  | raw inside plain =>
      cases cs with
      | nil =>
          show cutQuoted style [c] = none
          rw [cutQuoted, if_neg inside]
      | cons x r =>
          have single : ¬ ((style.doubled? = some c ∧ x = c) ∨ c = '\\') := by
            rintro (⟨double, -⟩ | escape)
            · exact inside (QuoteStyle.eq_quote_of_doubled double)
            · exact plain escape
          show cutQuoted style (c :: x :: r) = _
          rw [cutQuoted, if_neg single, if_neg inside]
  | doubled h => exact pair (.inl ⟨h, rfl⟩)
  | escaped _ => exact pair (.inr rfl)
  | newline => exact pair (.inr rfl)
  | tab => exact pair (.inr rfl)
  | carriageReturn => exact pair (.inr rfl)
  | nul => exact pair (.inr rfl)

/-- A piece is taken in one step, whatever follows it. -/
theorem foldQuoted_piece {c : Char} {piece : List Char} (h : SpellsChar style c piece)
    (cs : List Char) :
    foldQuoted style.doubled? (piece ++ cs) = (piece, c) :: foldQuoted style.doubled? cs := by
  have escape (x : Char) : foldQuoted style.doubled? (['\\', x] ++ cs) =
      (['\\', x], unescapeChar x) :: foldQuoted style.doubled? cs := by
    show foldQuoted style.doubled? ('\\' :: x :: cs) = _
    rw [foldQuoted, if_pos rfl]
  cases h with
  | raw inside plain =>
      cases cs with
      | nil => rfl
      | cons x r =>
          have single : ¬ (style.doubled? = some c ∧ x = c) := by
            rintro ⟨double, -⟩
            exact inside (QuoteStyle.eq_quote_of_doubled double)
          show foldQuoted style.doubled? (c :: x :: r) = _
          rw [foldQuoted, if_neg plain, if_neg single]
  | doubled h =>
      have plain : c ≠ '\\' := by
        rw [QuoteStyle.eq_quote_of_doubled h]
        exact style.quote_ne_backslash
      show foldQuoted style.doubled? (c :: c :: cs) = _
      rw [foldQuoted, if_neg plain, if_pos ⟨h, rfl⟩]
  | escaped noLetter => rw [escape, unescapeChar_of_notMem noLetter]
  | newline => exact escape 'n'
  | tab => exact escape 't'
  | carriageReturn => exact escape 'r'
  | nul => exact escape '0'

/-- Over pieces, the pass takes these pieces and makes what they spell. -/
theorem foldQuoted_pieces {s : List Char} {pieces : List (List Char)}
    (h : Forall₂ (SpellsChar style) s pieces) :
    foldQuoted style.doubled? pieces.flatten = pieces.zip s := by
  induction h with
  | nil => rfl
  | cons first others ih => rw [List.flatten_cons, foldQuoted_piece first, ih]; rfl

theorem cutQuoted_pieces {s : List Char} {pieces : List (List Char)}
    (h : Forall₂ (SpellsChar style) s pieces) {rest : List Char} (stop : style.Closes rest) :
    cutQuoted style (pieces.flatten ++ style.quote :: rest) = some (pieces, rest) := by
  induction h with
  | nil => exact cutQuoted_quote stop
  | cons first others ih =>
      rw [List.flatten_cons, List.append_assoc, cutQuoted_piece first, ih]
      rfl

/-- What is cut off are pieces that spell something. -/
theorem exists_spelled_of_cutQuoted {cs rest : List Char} {pieces : List (List Char)}
    (h : cutQuoted style cs = some (pieces, rest)) :
    ∃ s, Forall₂ (SpellsChar style) s pieces ∧
      cs = pieces.flatten ++ style.quote :: rest ∧ style.Closes rest := by
  induction cs using quoted_induction style generalizing pieces with
  | close r stop =>
      rw [cutQuoted_quote stop] at h
      cases h
      exact ⟨[], .nil, rfl, stop⟩
  | piece c piece r first ih =>
      rw [cutQuoted_piece first] at h
      obtain ⟨⟨t, u⟩, found, same⟩ := Option.map_eq_some_iff.1 h
      cases same
      obtain ⟨s, each, shape, stop⟩ := ih found
      exact ⟨c :: s, .cons first each, by rw [shape, List.flatten_cons, List.append_assoc], stop⟩
  | nil => cases h
  | backslash =>
      rw [cutQuoted, if_neg style.quote_ne_backslash.symm] at h
      cases h

/-- **Scanning is cutting, then folding what was cut.** -/
theorem scanQuoted_eq_map (style : QuoteStyle) (cs : List Char) :
    scanQuoted style.quote cs = (cutQuoted style cs).map fun p =>
      ((foldQuoted style.doubled? p.1.flatten).map (·.2), p.2) := by
  -- both read the same pieces, and neither reads anything that is not pieces
  cases cut : cutQuoted style cs with
  | some p =>
      obtain ⟨s, each, shape, stop⟩ := exists_spelled_of_cutQuoted cut
      have chars : (p.1.zip s).map (·.2) = s := List.map_snd_zip (Nat.le_of_eq each.length_eq)
      rw [Option.map_some, foldQuoted_pieces each, chars, shape, scanQuoted_pieces each stop]
  | none =>
      rw [Option.map_none, Option.eq_none_iff_forall_ne_some]
      rintro ⟨s, rest⟩ scanned
      obtain ⟨pieces, each, shape, stop⟩ := exists_pieces_of_scanQuoted scanned
      rw [shape, cutQuoted_pieces each stop] at cut
      cases cut

/-- **Folding cuts where cutting did.** -/
theorem foldQuoted_cutQuoted {cs rest : List Char} {pieces : List (List Char)}
    (h : cutQuoted style cs = some (pieces, rest)) :
    (foldQuoted style.doubled? pieces.flatten).map (·.1) = pieces := by
  obtain ⟨s, each, -, -⟩ := exists_spelled_of_cutQuoted h
  rw [foldQuoted_pieces each, List.map_fst_zip (Nat.le_of_eq each.length_eq.symm)]

/-! ## §4. Literals. -/

theorem next?_quote (style : QuoteStyle) (cs : List Char) :
    next? (style.quote :: cs) = (scanQuoted style.quote cs).map fun p =>
      (.literal (.text (String.ofList p.1)), p.2) := by
  cases style with
  | single => rfl
  | double => rfl

/-- A text that is one token and begins with no separator. -/
theorem tokens?_of_next? {c : Char} {cs : List Char} {t : Token} (h : next? (c :: cs) = some (t, []))
    (present : isSeparator c = false) : tokens? (c :: cs) = some [t] := by
  have dropped : (c :: cs).dropWhile isSeparator = c :: cs :=
    List.dropWhile_cons_of_neg (by rw [present]; decide)
  have none : tokensWithin cs.length [] = some [] := by
    rw [tokensWithin.eq_def]
    rfl
  unfold tokens?
  rw [List.length_cons, tokensWithin.eq_def]
  simp only [dropped, h, none, Option.map_some]

/-- Pieces between quotes are one token. -/
theorem tokens?_between {s : List Char} {pieces : List (List Char)}
    (h : Forall₂ (SpellsChar style) s pieces) :
    tokens? (style.between pieces).toList = some [.literal (.text (String.ofList s))] := by
  have ends : style.Closes [] := fun c _ => by simp
  unfold QuoteStyle.between
  rw [String.toList_ofList]
  refine tokens?_of_next? ?_ (by cases style <;> decide)
  rw [next?_quote, scanQuoted_pieces h ends]
  rfl

/-- **Pieces between quotes are the literal that they spell**, every text has
a literal in both styles, and cutting a literal out of a text and folding what
was cut take the same pieces. -/
theorem parseExpr_between (style : QuoteStyle) :
    (∀ (s : String) (pieces : List (List Char)), Forall₂ (SpellsChar style) s.toList pieces →
      parseExpr (style.between pieces) = .ok (.literal (.text s))) ∧
    (∀ s : String, ∃ pieces, Forall₂ (SpellsChar style) s.toList pieces) ∧
    ∀ cs : List Char,
      scanQuoted style.quote cs = ((cutQuoted style cs).map fun p =>
        ((foldQuoted style.doubled? p.1.flatten).map (·.2), p.2)) ∧
      ∀ pieces rest, cutQuoted style cs = some (pieces, rest) →
        (foldQuoted style.doubled? pieces.flatten).map (·.1) = pieces := by
  refine ⟨?_, fun s => exists_pieces style s.toList, fun cs => ⟨scanQuoted_eq_map style cs, ?_⟩⟩
  · intro s pieces h
    have tokens := tokens?_between h
    rw [String.ofList_toList] at tokens
    exact parseExpr_eq_ok_iff.2 ⟨_, tokens, .literal _⟩
  · intro pieces rest cut
    exact foldQuoted_cutQuoted cut

/-- Between single quotes, a doubled quote, a quote behind a backslash, a free
double quote, a letter for a control character and a doubled backslash. -/
theorem parseExpr_between_mixed :
    parseExpr (QuoteStyle.single.between
      [['i'], ['t'], ['\'', '\''], ['\\', '\''], ['"'], ['\\', 'n'], ['\\', '\\']]) =
        .ok (.literal (.text "it''\"\n\\")) := by
  have spelled : Forall₂ (SpellsChar .single) ['i', 't', '\'', '\'', '"', '\n', '\\']
      [['i'], ['t'], ['\'', '\''], ['\\', '\''], ['"'], ['\\', 'n'], ['\\', '\\']] :=
    .cons (.raw (by decide) (by decide)) <| .cons (.raw (by decide) (by decide)) <|
      .cons (.doubled rfl) <| .cons (.escaped (by decide)) <|
      .cons (.raw (by decide) (by decide)) <| .cons .newline <|
      .cons (.escaped (by decide)) .nil
  exact (parseExpr_between .single).1 "it''\"\n\\" _ spelled

end Recordwise.Query
