/-
  Recordwise.Proofs.Query.Tokens
  ──────────────────────────────
  **The tokens of any text.**

  `AreTokens` says what tokens a text has: separators, the next token, and
  then the tokens of the rest.  No token reaches beyond a separator or a
  parenthesis behind it, so that two texts with a separator between them have
  the tokens of the one and then those of the other.  Main statements:

      exists_text_of_next?  — the next token takes a text of its own
      tokens?_eq_some_iff   — the tokens of a text, without a count of steps
      next?_append          — the next token is the same with more text behind
                              a character that ends it
      tokens?_append        — two texts with a separator between them
      tokens?_parenthesized — a text in parentheses
-/
import Mathlib.Data.List.TakeWhile
import Recordwise.Proofs.Query.Scanning

namespace Recordwise.Query

/-! ## §1. The text of a token. -/

/-- Whether a character occurs in the text of a number. -/
def isNumberPart (c : Char) : Bool :=
  Decimal.isDigit c || ['+', '-', '.', 'e', 'E'].contains c

/-- Whether a character occurs in tokens that have neither quotes nor
parentheses. -/
def isPlainPart (c : Char) : Bool :=
  isWordPart c || isNumberPart c || ['$', ',', ';', '=', '!', '<', '>'].contains c

/-- Whether a token is a parenthesis or a name between backticks. -/
def Token.isMarked : Token → Bool
  | .opening | .closing | .quotedName _ => true
  | _ => false

/-- The text of a token in front of the rest of a text.  What follows a quoted
literal does not double its quote. -/
inductive IsTokenText (rest : List Char) : List Char → Token → Prop
  | plain {text : List Char} {t : Token} (ne : text ≠ []) (parts : ∀ c ∈ text, isPlainPart c = true)
      (kind : t.isMarked = false) : IsTokenText rest text t
  | opening : IsTokenText rest ['('] .opening
  | closing : IsTokenText rest [')'] .closing
  | quoted (style : QuoteStyle) {s : List Char} {pieces : List (List Char)}
      (spelled : List.Forall₂ (SpellsChar style) s pieces) (closes : style.Closes rest) :
      IsTokenText rest (style.quote :: (pieces.flatten ++ [style.quote]))
        (.literal (.text (String.ofList s)))
  | quotedName (w : List Char) (inside : ∀ c ∈ w, c ≠ '\x60') :
      IsTokenText rest ('\x60' :: (w ++ ['\x60'])) (.quotedName (String.ofList w))

theorem isNumberPart_of_isDigit {c : Char} (h : Decimal.isDigit c = true) :
    isNumberPart c = true := by
  unfold isNumberPart
  rw [h, Bool.true_or]

theorem isPlainPart_of_isNumberPart {c : Char} (h : isNumberPart c = true) :
    isPlainPart c = true := by
  unfold isPlainPart
  rw [h, Bool.or_true, Bool.true_or]

theorem isPlainPart_of_isWordPart {c : Char} (h : isWordPart c = true) : isPlainPart c = true := by
  unfold isPlainPart
  rw [h, Bool.true_or, Bool.true_or]

theorem scanPart_split (sign : List Char) (h : sign.all isNumberPart = true)
    (cs : List Char) :
    sign ++ cs = (scanPart sign cs).1 ++ (scanPart sign cs).2 ∧
      ∀ c ∈ (scanPart sign cs).1, isNumberPart c = true := by
  unfold scanPart
  split
  · simp
  · rename_i d ds digits
    rw [← digits, List.append_assoc, List.takeWhile_append_dropWhile]
    refine ⟨rfl, ?_⟩
    intro c hc
    rcases List.mem_append.1 hc with hc | hc
    · exact List.all_eq_true.1 h c hc
    · exact isNumberPart_of_isDigit (List.mem_takeWhile_imp hc)

theorem scanFraction_split (cs : List Char) :
    cs = (scanFraction cs).1 ++ (scanFraction cs).2 ∧
      ∀ c ∈ (scanFraction cs).1, isNumberPart c = true := by
  unfold scanFraction
  split
  · exact scanPart_split ['.'] (by decide) _
  · simp

theorem scanExponent_split (cs : List Char) :
    cs = (scanExponent cs).1 ++ (scanExponent cs).2 ∧
      ∀ c ∈ (scanExponent cs).1, isNumberPart c = true := by
  unfold scanExponent
  split
  · rename_i c s cs
    split
    · rename_i letter
      split
      · rename_i sign
        refine scanPart_split [c, s] ?_ cs
        rcases letter with rfl | rfl <;> rcases sign with rfl | rfl <;> decide
      · refine scanPart_split [c] ?_ (s :: cs)
        rcases letter with rfl | rfl <;> decide
    · simp
  · simp

/-- A number takes digits, signs, a point and an exponent's letter. -/
theorem scanNumber_split {sign : List Char} (h : sign.all isNumberPart = true)
    (cs : List Char) :
    ∃ text, sign ++ cs = text ++ (scanNumber sign cs).2 ∧
      (∀ c ∈ text, isNumberPart c = true) ∧
      sign ++ cs.takeWhile Decimal.isDigit <+: text := by
  have fraction := scanFraction_split (cs.dropWhile Decimal.isDigit)
  have exponent := scanExponent_split (scanFraction (cs.dropWhile Decimal.isDigit)).2
  refine ⟨sign ++ cs.takeWhile Decimal.isDigit ++
    ((scanFraction (cs.dropWhile Decimal.isDigit)).1 ++
      (scanExponent (scanFraction (cs.dropWhile Decimal.isDigit)).2).1), ?_, ?_, ?_⟩
  · show _ = _ ++ (scanExponent (scanFraction (cs.dropWhile Decimal.isDigit)).2).2
    simp only [List.append_assoc]
    rw [← exponent.1, ← fraction.1, List.takeWhile_append_dropWhile]
  · intro c hc
    simp only [List.mem_append] at hc
    rcases hc with (hc | hc) | hc | hc
    · exact List.all_eq_true.1 h c hc
    · exact isNumberPart_of_isDigit (List.mem_takeWhile_imp hc)
    · exact fraction.2 c hc
    · exact exponent.2 c hc
  · exact List.prefix_append _ _

/-- The text of a number's token. -/
theorem isTokenText_number (sign : List Char) {cs : List Char} {c : Char}
    (h : sign.all isNumberPart = true) (first : Decimal.isDigit c = true) :
    ∃ text, IsTokenText (scanNumber sign (c :: cs)).2 text
        (.literal (scanNumber sign (c :: cs)).1) ∧
      sign ++ c :: cs = text ++ (scanNumber sign (c :: cs)).2 := by
  obtain ⟨text, split, parts, start⟩ := scanNumber_split h (c :: cs)
  refine ⟨text, .plain ?_ (fun c hc => isPlainPart_of_isNumberPart (parts c hc)) rfl, split⟩
  rintro rfl
  rw [List.prefix_nil, List.append_eq_nil_iff, List.takeWhile_cons_of_pos first] at start
  exact absurd start.2 (List.cons_ne_nil _ _)

/-- The text of a word, with what stands in front of it. -/
theorem isTokenText_word (front : List Char) {cs : List Char} {c : Char} (first : isWordStart c = true)
    (parts : front.all isPlainPart = true) {t : Token} (kind : t.isMarked = false) :
    ∃ text, IsTokenText (scanWord (c :: cs)).2 text t ∧ front ++ c :: cs = text ++ (scanWord (c :: cs)).2 := by
  refine ⟨front ++ (c :: cs).takeWhile isWordPart, .plain ?_ ?_ kind, ?_⟩
  · rw [List.takeWhile_cons_of_pos (isWordPart_of_isWordStart first)]
    simp
  · intro d hd
    rcases List.mem_append.1 hd with hd | hd
    · exact List.all_eq_true.1 parts d hd
    · exact isPlainPart_of_isWordPart (List.mem_takeWhile_imp hd)
  · show _ = _ ++ (c :: cs).dropWhile isWordPart
    rw [List.append_assoc, List.takeWhile_append_dropWhile]

theorem scanBacktick_split {cs : List Char} {p : List Char × List Char}
    (h : scanBacktick cs = some p) :
    cs = p.1 ++ '\x60' :: p.2 ∧ p.1 ≠ [] ∧ ∀ c ∈ p.1, c ≠ '\x60' := by
  unfold scanBacktick at h
  split at h
  · rename_i c name d rest inside behind
    cases h
    have stop : d = '\x60' := by
      have head := List.head?_dropWhile_not (· != '\x60') cs
      rw [behind] at head
      simpa using head
    subst stop
    refine ⟨?_, List.cons_ne_nil c name, ?_⟩
    · rw [← inside, ← behind, List.takeWhile_append_dropWhile]
    · intro e he
      rw [← inside] at he
      exact bne_iff_ne.1 (List.mem_takeWhile_imp (p := (· != '\x60')) he)
  · cases h

/-- The text of a sign other than a parenthesis. -/
theorem isTokenText_sign (text : List Char) {t : Token} (ne : text ≠ [])
    (parts : text.all isPlainPart = true) (kind : t.isMarked = false) (rest : List Char) :
    ∃ front, IsTokenText rest front t ∧ text ++ rest = front ++ rest :=
  ⟨text, .plain ne (List.all_eq_true.1 parts) kind, rfl⟩

/-- The text of a quoted literal. -/
theorem isTokenText_quoted (style : QuoteStyle) {cs rest : List Char} {t : Token}
    (h : (scanQuoted style.quote cs).map (fun p =>
      (Token.literal (.text (String.ofList p.1)), p.2)) = some (t, rest)) :
    ∃ text, IsTokenText rest text t ∧ style.quote :: cs = text ++ rest := by
  obtain ⟨⟨s, r⟩, scanned, same⟩ := Option.map_eq_some_iff.1 h
  cases same
  obtain ⟨pieces, spelled, rfl, closes⟩ := exists_pieces_of_scanQuoted scanned
  exact ⟨_, .quoted style spelled closes, by simp⟩

/-- **The next token takes a text of its own** off the front. -/
theorem exists_text_of_next? {cs rest : List Char} {t : Token} (h : next? cs = some (t, rest)) :
    ∃ text, IsTokenText rest text t ∧ cs = text ++ rest := by
  rw [next?.eq_def] at h
  split at h
  case h_1 => cases h
  case h_2 => cases h; exact ⟨_, .opening, rfl⟩
  case h_3 => cases h; exact ⟨_, .closing, rfl⟩
  case h_13 => exact isTokenText_quoted .single h
  case h_14 => exact isTokenText_quoted .double h
  case h_15 =>
    obtain ⟨⟨w, r⟩, scanned, same⟩ := Option.map_eq_some_iff.1 h
    cases same
    obtain ⟨shape, -, inside⟩ := scanBacktick_split scanned
    exact ⟨_, .quotedName w inside, by rw [shape]; simp⟩
  case h_16 cs =>
    cases cs with
    | nil => cases h
    | cons c cs =>
        unfold scanParameter at h
        obtain ⟨name, same⟩ := Option.ite_none_right_eq_some.1 h
        cases same
        rw [Bool.and_eq_true] at name
        exact isTokenText_word ['$', 'c', 't', 'x', '.'] name.1 (by decide) rfl
  case h_17 d cs =>
    obtain ⟨digit, same⟩ := Option.ite_none_right_eq_some.1 h
    cases same
    exact isTokenText_number ['-'] (by decide) digit
  case h_18 c cs =>
    split at h
    · rename_i digit
      cases h
      exact isTokenText_number [] rfl digit
    · obtain ⟨start, same⟩ := Option.ite_none_right_eq_some.1 h
      cases same
      exact isTokenText_word [] start rfl rfl
  case h_4 | h_5 | h_6 | h_10 | h_12 =>
    cases h
    exact isTokenText_sign [_] (by simp) (by decide) rfl _
  case h_7 | h_8 | h_9 | h_11 =>
    cases h
    exact isTokenText_sign [_, _] (by simp) (by decide) rfl _

/-! ## §2. The tokens of a text. -/

/-- The tokens of a text, with separators in front of each and at the end. -/
inductive AreTokens : List Char → List Token → Prop
  | nil {gap : List Char} (blank : ∀ c ∈ gap, isSeparator c = true) : AreTokens gap []
  | cons {gap cs rest : List Char} {t : Token} {ts : List Token}
      (blank : ∀ c ∈ gap, isSeparator c = true) (first : next? cs = some (t, rest))
      (others : AreTokens rest ts) : AreTokens (gap ++ cs) (t :: ts)

theorem isSeparator_of_isPlainPart {c : Char} (h : isPlainPart c = true) :
    isSeparator c = false := by
  have other {d : Char} (hd : isPlainPart d = false) : (c == d) = false := by
    refine beq_eq_false_iff_ne.2 ?_
    rintro rfl
    rw [h] at hd
    exact absurd hd (by decide)
  unfold isSeparator
  rw [other (by decide), other (by decide), other (by decide), other (by decide)]
  rfl

/-- A token begins with no separator. -/
theorem exists_cons_of_next? {cs rest : List Char} {t : Token} (h : next? cs = some (t, rest)) :
    ∃ c r, cs = c :: r ∧ isSeparator c = false ∧ rest.length < cs.length := by
  obtain ⟨text, shape, rfl⟩ := exists_text_of_next? h
  have head : ∃ c r, text = c :: r ∧ isSeparator c = false := by
    cases shape with
    | plain ne parts =>
        obtain ⟨c, r, rfl⟩ := List.exists_cons_of_ne_nil ne
        exact ⟨c, r, rfl, isSeparator_of_isPlainPart (parts c List.mem_cons_self)⟩
    | opening => exact ⟨_, _, rfl, by decide⟩
    | closing => exact ⟨_, _, rfl, by decide⟩
    | quoted style => exact ⟨_, _, rfl, by cases style <;> decide⟩
    | quotedName => exact ⟨_, _, rfl, by decide⟩
  obtain ⟨c, r, rfl, present⟩ := head
  refine ⟨c, r ++ rest, rfl, present, ?_⟩
  rw [List.length_append, List.length_cons]
  omega

theorem tokensWithin_of_blank {cs : List Char} (h : ∀ c ∈ cs, isSeparator c = true) (fuel : Nat) :
    tokensWithin fuel cs = some [] := by
  rw [tokensWithin.eq_def]
  simp only [List.dropWhile_eq_nil_iff.2 h]

theorem tokensWithin_succ {cs r : List Char} {c : Char} (h : cs.dropWhile isSeparator = c :: r)
    (fuel : Nat) : tokensWithin (fuel + 1) cs =
      (next? (c :: r)).bind fun p => (tokensWithin fuel p.2).map (p.1 :: ·) := by
  rw [tokensWithin.eq_def]
  simp only [h]
  cases next? (c :: r) <;> rfl

theorem areTokens_of_tokensWithin {fuel : Nat} {cs : List Char} {ts : List Token}
    (h : tokensWithin fuel cs = some ts) : AreTokens cs ts := by
  -- by the fuel, although a blank text needs none
  induction fuel using Nat.strongRecOn generalizing cs ts with
  | ind fuel ih =>
      cases dropped : cs.dropWhile isSeparator with
      | nil =>
          have blank := List.dropWhile_eq_nil_iff.1 dropped
          rw [tokensWithin_of_blank blank] at h
          cases h
          exact .nil blank
      | cons c r =>
          cases fuel with
          | zero =>
              rw [tokensWithin.eq_def] at h
              simp only [dropped, reduceCtorEq] at h
          | succ fuel =>
              rw [tokensWithin_succ dropped] at h
              obtain ⟨⟨t, rest⟩, first, more⟩ := Option.bind_eq_some_iff.1 h
              obtain ⟨us, others, rfl⟩ := Option.map_eq_some_iff.1 more
              rw [← List.takeWhile_append_dropWhile (p := isSeparator) (l := cs), dropped]
              exact .cons (fun c hc => List.mem_takeWhile_imp hc) first
                (ih fuel (Nat.lt_succ_self fuel) others)

theorem AreTokens.tokensWithin {cs : List Char} {ts : List Token} (h : AreTokens cs ts) {fuel : Nat}
    (enough : cs.length ≤ fuel) : tokensWithin fuel cs = some ts := by
  induction h generalizing fuel with
  | nil blank => exact tokensWithin_of_blank blank fuel
  | @cons gap cs rest t ts blank first others ih =>
      obtain ⟨c, r, rfl, present, shorter⟩ := exists_cons_of_next? first
      have dropped : (gap ++ c :: r).dropWhile isSeparator = c :: r := by
        rw [List.dropWhile_append_of_pos blank,
          List.dropWhile_cons_of_neg (by rw [present]; decide)]
      rw [List.length_append] at enough
      -- the token is not empty, so that the fuel suffices for the rest
      obtain ⟨n, rfl⟩ : ∃ n, fuel = n + 1 := ⟨fuel - 1, by omega⟩
      rw [tokensWithin_succ dropped, first]
      show (Query.tokensWithin n rest).map (t :: ·) = _
      rw [ih (by omega)]
      rfl

/-- **The tokens of a text, without a count of steps.** -/
theorem tokens?_eq_some_iff {cs : List Char} {ts : List Token} :
    tokens? cs = some ts ↔ AreTokens cs ts :=
  ⟨areTokens_of_tokensWithin, fun h => h.tokensWithin (Nat.le_refl _)⟩

/-! ## §3. What ends a token. -/

/-- Whether a character ends the token in front of it, whatever that is. -/
def isStop (c : Char) : Bool := isSeparator c || ['(', ')', ',', ';'].contains c

theorem isStop_of_isSeparator {c : Char} (h : isSeparator c = true) : isStop c = true := by
  unfold isStop
  rw [h, Bool.true_or]

theorem ne_of_isStop {c d : Char} (h : isStop d = true) (hc : isStop c = false) : d ≠ c := by
  rintro rfl
  rw [h] at hc
  exact absurd hc (by decide)

theorem isWordPart_of_isStop {d : Char} (h : isStop d = true) : isWordPart d = false := by
  simp only [isStop, isSeparator, Bool.or_eq_true, beq_iff_eq, List.contains_iff_mem,
    List.mem_cons, List.not_mem_nil, or_false] at h
  rcases h with (((rfl | rfl) | rfl) | rfl) | rfl | rfl | rfl | rfl <;> decide

theorem isDigit_of_isStop {d : Char} (h : isStop d = true) : Decimal.isDigit d = false := by
  rw [Bool.eq_false_iff]
  intro digit
  have nopart := isWordPart_of_isStop h
  rw [isWordPart_of_isDigit digit] at nopart
  exact absurd nopart (by decide)

/-- A run of characters is not longer with more text behind a character that
stops it. -/
theorem takeWhile_append_of_stop {p : Char → Bool} {d : Char} (stop : p d = false)
    (cs ds : List Char) :
    (cs ++ d :: ds).takeWhile p = cs.takeWhile p ∧
      (cs ++ d :: ds).dropWhile p = cs.dropWhile p ++ d :: ds := by
  induction cs with
  | nil => simp [stop]
  | cons c cs ih =>
      cases hc : p c with
      | true => simp [hc, ih]
      | false => simp [hc]

section Scanners

variable {d : Char} (stop : isStop d = true) (ds : List Char)
include stop

theorem scanPart_append (sign cs : List Char) :
    scanPart sign (cs ++ d :: ds) = ((scanPart sign cs).1, (scanPart sign cs).2 ++ d :: ds) := by
  obtain ⟨take, drop⟩ := takeWhile_append_of_stop (isDigit_of_isStop stop) cs ds
  unfold scanPart
  rw [take, drop]
  split
  · rw [List.append_assoc]
  · rfl

theorem scanFraction_append (cs : List Char) :
    scanFraction (cs ++ d :: ds) = ((scanFraction cs).1, (scanFraction cs).2 ++ d :: ds) := by
  have noPoint : d ≠ '.' := ne_of_isStop stop (by decide)
  cases cs with
  | nil => simp [scanFraction, noPoint]
  | cons c cs =>
      by_cases point : c = '.'
      · subst point
        exact scanPart_append stop ds ['.'] cs
      · simp [scanFraction, point]

theorem scanExponent_append (cs : List Char) :
    scanExponent (cs ++ d :: ds) = ((scanExponent cs).1, (scanExponent cs).2 ++ d :: ds) := by
  have noLetter : ¬ (d = 'e' ∨ d = 'E') := by
    rintro (rfl | rfl) <;> exact absurd stop (by decide)
  have noSign : ¬ (d = '+' ∨ d = '-') := by
    rintro (rfl | rfl) <;> exact absurd stop (by decide)
  match cs with
  | [] =>
      cases ds with
      | nil => rfl
      | cons x ds =>
          show scanExponent (d :: x :: ds) = _
          rw [scanExponent, if_neg noLetter]
          rfl
  | [c] =>
      have none := scanPart_append stop ds [c] []
      show scanExponent (c :: d :: ds) = ([], c :: d :: ds)
      rw [scanExponent, if_neg noSign]
      split
      · exact none
      · rfl
  | c :: s :: cs =>
      show scanExponent (c :: s :: (cs ++ d :: ds)) = _
      simp only [scanExponent]
      split
      · split
        · exact scanPart_append stop ds [c, s] cs
        · exact scanPart_append stop ds [c] (s :: cs)
      · rfl

theorem scanNumber_append (sign cs : List Char) :
    scanNumber sign (cs ++ d :: ds) =
      ((scanNumber sign cs).1, (scanNumber sign cs).2 ++ d :: ds) := by
  obtain ⟨take, drop⟩ := takeWhile_append_of_stop (isDigit_of_isStop stop) cs ds
  unfold scanNumber
  simp only [take, drop, scanFraction_append stop, scanExponent_append stop]

theorem scanWord_append_of_isStop (cs : List Char) :
    scanWord (cs ++ d :: ds) = ((scanWord cs).1, (scanWord cs).2 ++ d :: ds) := by
  obtain ⟨take, drop⟩ := takeWhile_append_of_stop (isWordPart_of_isStop stop) cs ds
  unfold scanWord
  rw [take, drop]

theorem scanParameter_append {cs rest : List Char} {t : Token}
    (h : scanParameter cs = some (t, rest)) :
    scanParameter (cs ++ d :: ds) = some (t, rest ++ d :: ds) := by
  cases cs with
  | nil => cases h
  | cons c cs =>
      have scanned := scanWord_append_of_isStop stop ds (c :: cs)
      unfold scanParameter at h
      obtain ⟨name, same⟩ := Option.ite_none_right_eq_some.1 h
      cases same
      unfold scanParameter
      rw [List.cons_append] at scanned ⊢
      simp only [scanned]
      exact if_pos name

omit stop in
theorem scanBacktick_append {cs : List Char} {p : List Char × List Char}
    (h : scanBacktick cs = some p) :
    scanBacktick (cs ++ d :: ds) = some (p.1, p.2 ++ d :: ds) := by
  obtain ⟨shape, ne, inside⟩ := scanBacktick_split h
  have stops : ∀ e, ('\x60' :: (p.2 ++ d :: ds)).head? = some e → (e != '\x60') = false := by
    rintro e ⟨⟩
    rfl
  have run := takeWhile_run (fun c hc => bne_iff_ne.2 (inside c hc)) stops
  obtain ⟨c, w, name⟩ := List.exists_cons_of_ne_nil ne
  unfold scanBacktick
  rw [shape, List.append_assoc, List.cons_append, run.1, run.2, name]

theorem scanQuoted_append {style : QuoteStyle} {cs s rest : List Char}
    (h : scanQuoted style.quote cs = some (s, rest)) :
    scanQuoted style.quote (cs ++ d :: ds) = some (s, rest ++ d :: ds) := by
  obtain ⟨pieces, spelled, rfl, closes⟩ := exists_pieces_of_scanQuoted h
  rw [List.append_assoc, List.cons_append]
  refine scanQuoted_pieces spelled ?_
  intro c double head
  cases rest with
  | nil =>
      have same : d = style.quote := by
        rw [← QuoteStyle.eq_quote_of_doubled double]
        exact Option.some.inj head
      subst same
      cases style <;> exact absurd stop (by decide)
  | cons x r => exact closes c double head

theorem next?_quote_append (style : QuoteStyle) {cs rest : List Char} {t : Token}
    (h : (scanQuoted style.quote cs).map (fun p =>
      (Token.literal (.text (String.ofList p.1)), p.2)) = some (t, rest)) :
    next? (style.quote :: (cs ++ d :: ds)) = some (t, rest ++ d :: ds) := by
  obtain ⟨⟨s, r⟩, scanned, same⟩ := Option.map_eq_some_iff.1 h
  cases same
  rw [next?_quote, scanQuoted_append stop ds scanned]
  rfl

/-- **The next token is the same with more text behind a character that
ends it.** -/
theorem next?_append {cs rest : List Char} {t : Token} (h : next? cs = some (t, rest)) :
    next? (cs ++ d :: ds) = some (t, rest ++ d :: ds) := by
  -- what stands behind a sign makes no longer one
  have apart {e : Char} (other : isStop e = false) {cs : List Char}
      (h : ∀ r, cs = e :: r → False) : (cs ++ d :: ds).head? ≠ some e := by
    cases cs with
    | nil => exact fun same => ne_of_isStop stop other (Option.some.inj same)
    | cons x cs => exact fun same => h cs (by rw [Option.some.inj same])
  rw [next?.eq_def] at h
  split at h
  case h_1 => cases h
  case h_10 equal greater =>
    cases h
    exact next?_less (apart (by decide) equal) (apart (by decide) greater)
  case h_12 equal =>
    cases h
    exact next?_greater (apart (by decide) equal)
  case h_13 => exact next?_quote_append stop ds .single h
  case h_14 => exact next?_quote_append stop ds .double h
  case h_15 cs =>
    obtain ⟨p, scanned, same⟩ := Option.map_eq_some_iff.1 h
    cases same
    show (scanBacktick (cs ++ d :: ds)).map _ = _
    rw [scanBacktick_append ds scanned]
    rfl
  case h_16 => exact scanParameter_append stop ds h
  case h_17 c cs =>
    obtain ⟨digit, same⟩ := Option.ite_none_right_eq_some.1 h
    cases same
    show next? ('-' :: c :: (cs ++ d :: ds)) = _
    rw [next?_minus digit, ← List.cons_append, scanNumber_append stop]
    rfl
  case h_18 c cs _ _ _ _ _ _ _ _ _ _ _ _ _ _ _ _ =>
    split at h
    · rename_i digit
      cases h
      rw [List.cons_append, next?_digit digit, ← List.cons_append, scanNumber_append stop]
      rfl
    · obtain ⟨start, same⟩ := Option.ite_none_right_eq_some.1 h
      cases same
      rw [List.cons_append, next?_word start, ← List.cons_append,
        scanWord_append_of_isStop stop]
      rfl
  all_goals
    cases h
    rfl

end Scanners

/-- Separators in front of a text are no tokens. -/
theorem AreTokens.skip {gap cs : List Char} {ts : List Token}
    (blank : ∀ c ∈ gap, isSeparator c = true) (h : AreTokens cs ts) : AreTokens (gap ++ cs) ts := by
  have join {more : List Char} (others : ∀ c ∈ more, isSeparator c = true) :
      ∀ c ∈ gap ++ more, isSeparator c = true := fun c hc =>
    (List.mem_append.1 hc).elim (blank c) (others c)
  cases h with
  | nil others => exact .nil (join others)
  | cons others first rest =>
      rw [← List.append_assoc]
      exact .cons (join others) first rest

theorem AreTokens.append {cs ds : List Char} {ts us : List Token} {d : Char}
    (front : AreTokens cs ts) (back : AreTokens (d :: ds) us) (stop : isStop d = true) :
    AreTokens (cs ++ d :: ds) (ts ++ us) := by
  induction front with
  | nil blank => exact back.skip blank
  | cons blank first others ih =>
      -- the rest behind the token grows, the token does not
      rw [List.append_assoc]
      exact .cons blank (next?_append stop ds first) ih

/-- **Two texts with a separator between them** have the tokens of the one and
then those of the other. -/
theorem tokens?_append {cs ds : List Char} {ts us : List Token} (front : tokens? cs = some ts)
    (back : tokens? ds = some us) {d : Char} (sep : isSeparator d = true) :
    tokens? (cs ++ d :: ds) = some (ts ++ us) := by
  rw [tokens?_eq_some_iff] at front back ⊢
  have skipped : AreTokens ([d] ++ ds) us := back.skip (by simpa using sep)
  exact front.append skipped (isStop_of_isSeparator sep)

/-- A text in parentheses has its tokens in parentheses. -/
theorem tokens?_parenthesized {cs : List Char} {ts : List Token} (h : tokens? cs = some ts) :
    tokens? ('(' :: (cs ++ [')'])) = some (.opening :: (ts ++ [.closing])) := by
  rw [tokens?_eq_some_iff] at h ⊢
  have blank : ∀ c ∈ ([] : List Char), isSeparator c = true := by simp
  have closing : AreTokens [')'] [.closing] := .cons blank rfl (.nil blank)
  exact .cons blank rfl (h.append closing (by decide))

end Recordwise.Query
