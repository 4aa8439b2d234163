/-
  Recordwise.Proofs.Query.Scanning
  ────────────────────────────────
  **One token, read from its text.**

  A token ends where its text ends if what follows does not go on with it: no
  character of a word behind a word or a number, no quote behind a quoted
  text, no `=` or `>` behind a comparison sign.  Main statements:

      toNat_asciiLower          — what folding does to a code point
      scanQuoted_doubleQuotes   — a text with its quotes doubled reads back
      scanNumber_digits         — digits with nothing behind them are a number
      next?_text                — the text of a token is read as that token
-/
import Recordwise.Proofs.Query.Layout
import Recordwise.Proofs.Query.Quoting

namespace Recordwise.Query

/-! ## §1. Characters. -/

/-- The characters a word can begin with, by code point. -/
theorem isWordStart_iff (c : Char) :
    isWordStart c = true ↔
      (97 ≤ c.toNat ∧ c.toNat ≤ 122) ∨ (65 ≤ c.toNat ∧ c.toNat ≤ 90) ∨ c.toNat = 95 := by
  have same : c = '_' ↔ c.toNat = 95 := by
    rw [← Char.toNat_inj]; rfl
  simp only [isWordStart, Bool.or_eq_true, Bool.and_eq_true, decide_eq_true_eq, beq_iff_eq, same,
    Char.le_def, UInt32.le_iff_toNat_le, or_assoc]
  rfl

/-- A capital letter and its lower case are 32 code points apart. -/
theorem toNat_asciiLower (c : Char) :
    (Text.asciiLower c).toNat =
      if 65 ≤ c.toNat ∧ c.toNat ≤ 90 then c.toNat + 32 else c.toNat := by
  have capital : ('A' ≤ c ∧ c ≤ 'Z') ↔ 65 ≤ c.toNat ∧ c.toNat ≤ 90 := by
    simp only [Char.le_def, UInt32.le_iff_toNat_le]
    rfl
  unfold Text.asciiLower
  simp only [capital]
  split
  · rename_i h
    have valid : (c.toNat + 32).isValidChar := by
      left
      omega
    rw [Char.ofNat, dif_pos valid]
    rfl
  · rfl

theorem isWordStart_asciiLower (c : Char) : isWordStart (Text.asciiLower c) = isWordStart c := by
  rw [Bool.eq_iff_iff, isWordStart_iff, isWordStart_iff, toNat_asciiLower]
  split <;> omega

theorem isWordPart_asciiLower (c : Char) : isWordPart (Text.asciiLower c) = isWordPart c := by
  have digit : Decimal.isDigit (Text.asciiLower c) = Decimal.isDigit c := by
    rw [Bool.eq_iff_iff, Decimal.isDigit_iff, Decimal.isDigit_iff, toNat_asciiLower]
    split <;> omega
  unfold isWordPart
  rw [isWordStart_asciiLower, digit]

/-- A character that begins a word or a number is another than any sign. -/
theorem ne_of_isWordPart {c d : Char} (h : isWordPart c = true) (hd : isWordPart d = false) :
    c ≠ d := by
  rintro rfl
  rw [h] at hd
  exact absurd hd (by decide)

theorem isWordPart_of_isWordStart {c : Char} (h : isWordStart c = true) : isWordPart c = true := by
  unfold isWordPart
  rw [h, Bool.true_or]

theorem isWordPart_of_isDigit {c : Char} (h : Decimal.isDigit c = true) : isWordPart c = true := by
  unfold isWordPart
  rw [h, Bool.or_true]

/-- A run of characters is taken whole where it stops. -/
theorem takeWhile_run {p : Char → Bool} {run rest : List Char} (h : ∀ c ∈ run, p c = true)
    (stop : ∀ d, rest.head? = some d → p d = false) :
    (run ++ rest).takeWhile p = run ∧ (run ++ rest).dropWhile p = rest := by
  rw [List.takeWhile_append_of_pos h, List.dropWhile_append_of_pos h]
  cases rest with
  | nil => exact ⟨List.append_nil run, rfl⟩
  | cons d r =>
      have hd : p d = false := stop d rfl
      rw [List.takeWhile_cons_of_neg (by rw [hd]; decide),
        List.dropWhile_cons_of_neg (by rw [hd]; decide)]
      exact ⟨List.append_nil run, rfl⟩

/-! ## §2. The scanners. -/

/-- Doubling the quotes of a text spells it. -/
theorem exists_pieces_doubleQuotes {s : List Char} (plain : ∀ c ∈ s, c ≠ '\\') :
    ∃ pieces, List.Forall₂ (SpellsChar .single) s pieces ∧ pieces.flatten = doubleQuotes s := by
  induction s with
  | nil => exact ⟨[], .nil, rfl⟩
  | cons c cs ih =>
      obtain ⟨pieces, spelled, flat⟩ := ih fun d hd => plain d (List.mem_cons_of_mem c hd)
      unfold doubleQuotes
      by_cases quote : c = '\''
      · subst quote
        exact ⟨_, .cons (.doubled rfl) spelled, by rw [List.flatten_cons, flat]; rfl⟩
      · exact ⟨_, .cons (.raw quote (plain c List.mem_cons_self)) spelled,
          by rw [List.flatten_cons, flat, if_neg quote]; rfl⟩

/-- A text with its quotes doubled is read up to the closing quote. -/
theorem scanQuoted_doubleQuotes {s rest : List Char} (plain : ∀ c ∈ s, c ≠ '\\')
    (stop : rest.head? ≠ some '\'') :
    scanQuoted '\'' (doubleQuotes s ++ '\'' :: rest) = some (s, rest) := by
  obtain ⟨pieces, spelled, flat⟩ := exists_pieces_doubleQuotes plain
  rw [← flat]
  have closes : QuoteStyle.single.Closes rest := by
    rintro c ⟨⟩
    exact stop
  exact scanQuoted_pieces spelled closes

/-- A text that begins like a word or a number begins with no sign. -/
theorem next?_of_isWordPart {c : Char} (h : isWordPart c = true) (cs : List Char) :
    next? (c :: cs) =
      if Decimal.isDigit c then
        some (.literal (scanNumber [] (c :: cs)).1, (scanNumber [] (c :: cs)).2)
      else if isWordStart c then
        some (.word (scanWord (c :: cs)).1, (scanWord (c :: cs)).2)
      else none := by
  have other {d : Char} (hd : isWordPart d = false) : c ≠ d := ne_of_isWordPart h hd
  rw [next?.eq_def]
  -- every case but the last is for a sign
  split <;> rename_i heq <;> simp only [List.cons.injEq, reduceCtorEq] at heq
  all_goals try exact absurd heq.1 (other (by decide))
  obtain ⟨rfl, rfl⟩ := heq
  rfl

/-- A text that begins like a word begins with a word token. -/
theorem next?_word {c : Char} (h : isWordStart c = true) (cs : List Char) :
    next? (c :: cs) = some (.word (scanWord (c :: cs)).1, (scanWord (c :: cs)).2) := by
  have nodigit : Decimal.isDigit c = false := by
    rw [Bool.eq_false_iff]
    intro digit
    rw [isWordStart_iff] at h
    rw [Decimal.isDigit_iff] at digit
    omega
  rw [next?_of_isWordPart (isWordPart_of_isWordStart h), nodigit, h]
  rfl

/-- A text that begins with a digit begins with a number. -/
theorem next?_digit {c : Char} (h : Decimal.isDigit c = true) (cs : List Char) :
    next? (c :: cs) = some (.literal (scanNumber [] (c :: cs)).1, (scanNumber [] (c :: cs)).2) := by
  rw [next?_of_isWordPart (isWordPart_of_isDigit h), h]
  rfl

/-- A minus in front of a digit begins a number. -/
theorem next?_minus {c : Char} (h : Decimal.isDigit c = true) (cs : List Char) :
    next? ('-' :: c :: cs) =
      some (.literal (scanNumber ['-'] (c :: cs)).1, (scanNumber ['-'] (c :: cs)).2) := by
  show (if Decimal.isDigit c then _ else none) = _
  rw [h]
  rfl

/-- A number without fraction and exponent is its sign and digits. -/
theorem scanNumber_digits (sign : List Char) {ds rest : List Char}
    (digits : ∀ c ∈ ds, Decimal.isDigit c = true)
    (stop : ∀ d, rest.head? = some d → isWordPart d = false ∧ d ≠ '.') :
    scanNumber sign (ds ++ rest) = (numberValue (sign ++ ds) [] [], rest) := by
  have nodigit : ∀ d, rest.head? = some d → Decimal.isDigit d = false := by
    intro d hd
    rw [Bool.eq_false_iff]
    intro digit
    have nopart : isWordPart d = false := (stop d hd).1
    rw [isWordPart_of_isDigit digit] at nopart
    exact absurd nopart (by decide)
  have run := takeWhile_run digits nodigit
  have fraction : scanFraction rest = ([], rest) := by
    unfold scanFraction
    split
    · exact absurd rfl (stop '.' rfl).2
    · rfl
  have exponent : scanExponent rest = ([], rest) := by
    unfold scanExponent
    split
    · rename_i c r cs
      have hc : isWordPart c = false := (stop c rfl).1
      have noLetter : ¬ (c = 'e' ∨ c = 'E') := by
        rintro (rfl | rfl) <;> exact absurd hc (by decide)
      rw [if_neg noLetter]
    · rfl
  unfold scanNumber
  simp only [run.1, run.2, fraction, exponent]

/-- A word ends where no character of a word follows. -/
theorem scanWord_append {w rest : List Char} (h : ∀ c ∈ w, isWordPart c = true)
    (stop : ∀ d, rest.head? = some d → isWordPart d = false) :
    scanWord (w ++ rest) = (String.ofList w, rest) := by
  have run := takeWhile_run h stop
  unfold scanWord
  rw [run.1, run.2]

/-! ## §3. One token. -/

/-- Whether a text has the form of a word. -/
def isWordText (w : String) : Bool :=
  match w.toList with
  | c :: cs => isWordStart c && cs.all isWordPart
  | [] => false

/-- Whether a token is read back from its text. -/
def Token.isPlain : Token → Bool
  | .word w => isWordText w
  | .parameter name => isIdentifier name
  | .literal (.integer _) => true
  | .literal (.text s) => s.toList.all (· != '\\')
  | .literal _ => false
  | .quotedName _ => false
  | _ => true

/-- Whether a token is a number or a quoted text. -/
def Token.isLiteral : Token → Bool
  | .literal _ => true
  | _ => false

/-- Whether a token is a comparison sign. -/
def Token.isComparison : Token → Bool
  | .comparison _ => true
  | _ => false

/-- What a character behind a token has to be for the token to end there,
words and numbers apart. -/
structure Token.EndsBefore (t : Token) (d : Char) : Prop where
  /-- No fraction begins. -/
  point : d ≠ '.'
  /-- No quote is doubled. -/
  quote : t.isLiteral = true → d ≠ '\''
  /-- No longer comparison sign is made. -/
  sign : t.isComparison = true → d ≠ '=' ∧ d ≠ '>'

theorem isWordText_eq_true {w : String} (h : isWordText w = true) :
    ∃ c cs, w.toList = c :: cs ∧ isWordStart c = true ∧ ∀ d ∈ w.toList, isWordPart d = true := by
  unfold isWordText at h
  split at h
  · rename_i c cs hw
    rw [Bool.and_eq_true, List.all_eq_true] at h
    refine ⟨c, cs, hw, h.1, ?_⟩
    intro d hd
    rw [hw] at hd
    rcases List.mem_cons.1 hd with rfl | hd
    · exact isWordPart_of_isWordStart h.1
    · exact h.2 d hd
  · exact absurd h (by decide)

theorem isIdentifier_eq_true {w : String} (h : isIdentifier w = true) :
    isWordText w = true ∧ isKeyword w = false := by
  unfold isIdentifier at h
  unfold isWordText
  cases hw : w.toList with
  | nil =>
      rw [hw] at h
      exact absurd h Bool.false_ne_true
  | cons c cs =>
      rw [hw] at h
      have both : (isWordStart c && cs.all isWordPart && !isKeyword w) = true := h
      rw [Bool.and_eq_true, Bool.not_eq_true'] at both
      exact both

/-- What joins no word to a text in front of it that ends like a word. -/
theorem isWordPart_head_of_not_joins {cs ds : List Char} {c : Char}
    (apart : joins cs ds = false) (last : cs.getLast? = some c) (part : isWordPart c = true) :
    ∀ d, ds.head? = some d → isWordPart d = false := by
  intro d hd
  unfold joins at apart
  rw [last, hd] at apart
  simp only [part, Bool.true_and] at apart
  exact apart

theorem ends_of_forall {p : Char → Prop} {cs : List Char} (ne : cs ≠ [])
    (h : ∀ c ∈ cs, p c) : ∃ c, cs.getLast? = some c ∧ p c :=
  ⟨cs.getLast ne, List.getLast?_eq_some_getLast ne, h _ (List.getLast_mem ne)⟩

/-- What follows a run of word characters that it does not join. -/
theorem stops_of_not_joins {run cs : List Char} (front : List Char) (ne : run ≠ [])
    (parts : ∀ c ∈ run, isWordPart c = true) (apart : joins (front ++ run) cs = false) :
    ∀ d, cs.head? = some d → isWordPart d = false := by
  obtain ⟨c, last, part⟩ := ends_of_forall ne parts
  refine isWordPart_head_of_not_joins apart ?_ part
  rw [List.getLast?_append_of_ne_nil _ ne]
  exact last

theorem text_parameter (name : String) :
    (Token.parameter name).text.toList = ['$', 'c', 't', 'x', '.'] ++ name.toList := by
  show ("$ctx." ++ name).toList = _
  rw [String.toList_append]
  rfl

theorem text_integer (n : Int64) :
    (Token.literal (.integer n)).text.toList = Decimal.intText n.toInt :=
  String.toList_ofList

theorem text_quoted (s : String) :
    (Token.literal (.text s)).text.toList = '\'' :: (doubleQuotes s.toList ++ ['\'']) := by
  show ("'" ++ String.ofList (doubleQuotes s.toList) ++ "'").toList = _
  rw [String.toList_append, String.toList_append]
  show ['\''] ++ (String.ofList (doubleQuotes s.toList)).toList ++ ['\''] = _
  rw [String.toList_ofList]
  rfl

theorem next?_text_word {w : String} (plain : isWordText w = true) {cs : List Char}
    (apart : joins w.toList cs = false) : next? (w.toList ++ cs) = some (.word w, cs) := by
  obtain ⟨c, r, hw, start, parts⟩ := isWordText_eq_true plain
  have ne : w.toList ≠ [] := by
    rw [hw]
    exact List.cons_ne_nil c r
  have stops := stops_of_not_joins [] ne parts apart
  have scanned := scanWord_append parts stops
  rw [hw, List.cons_append] at scanned ⊢
  rw [next?_word start, scanned, ← hw, String.ofList_toList]

theorem next?_text_parameter {name : String} (plain : isIdentifier name = true) {cs : List Char}
    (apart : joins (Token.parameter name).text.toList cs = false) :
    next? ((Token.parameter name).text.toList ++ cs) = some (.parameter name, cs) := by
  obtain ⟨word, nokey⟩ := isIdentifier_eq_true plain
  obtain ⟨c, r, hw, start, parts⟩ := isWordText_eq_true word
  have ne : name.toList ≠ [] := by
    rw [hw]
    exact List.cons_ne_nil c r
  rw [text_parameter] at apart ⊢
  have stops := stops_of_not_joins _ ne parts apart
  have scanned := scanWord_append parts stops
  show scanParameter (name.toList ++ cs) = some (.parameter name, cs)
  rw [hw, List.cons_append] at scanned ⊢
  unfold scanParameter
  simp only [scanned]
  rw [← hw, String.ofList_toList, start, nokey]
  rfl

theorem next?_text_integer {n : Int64} {cs : List Char}
    (apart : joins (Token.literal (.integer n)).text.toList cs = false)
    (point : cs.head? ≠ some '.') :
    next? ((Token.literal (.integer n)).text.toList ++ cs) = some (.literal (.integer n), cs) := by
  rw [text_integer] at apart ⊢
  have digits : ∀ c ∈ Decimal.natText n.toInt.natAbs, Decimal.isDigit c = true :=
    fun c hc => Decimal.isDigit_of_mem_natText hc
  have parts : ∀ c ∈ Decimal.natText n.toInt.natAbs, isWordPart c = true :=
    fun c hc => isWordPart_of_isDigit (digits c hc)
  have ne := Decimal.natText_ne_nil n.toInt.natAbs
  have scanned {sign : List Char}
      (written : Decimal.intText n.toInt = sign ++ Decimal.natText n.toInt.natAbs) :
      scanNumber sign (Decimal.natText n.toInt.natAbs ++ cs) = (.integer n, cs) := by
    rw [written] at apart
    have stops := stops_of_not_joins _ ne parts apart
    have value : numberValue (sign ++ Decimal.natText n.toInt.natAbs) [] [] = .integer n := by
      unfold numberValue
      rw [if_pos ⟨rfl, rfl⟩, List.append_nil, List.append_nil, ← written, Decimal.int64?_intText]
    rw [scanNumber_digits sign digits fun c hc => ⟨stops c hc, fun h => point (by rw [hc, h])⟩,
      value]
  obtain ⟨d, ds, hd⟩ := List.exists_cons_of_ne_nil ne
  have first : Decimal.isDigit d = true := digits d (by rw [hd]; exact List.mem_cons_self)
  -- the sign decides which of the two number rules applies
  by_cases negative : n.toInt < 0
  · have written : Decimal.intText n.toInt = ['-'] ++ Decimal.natText n.toInt.natAbs := by
      unfold Decimal.intText
      rw [if_pos negative]
      rfl
    have number := scanned written
    rw [hd, List.cons_append] at number
    rw [written, hd]
    show next? ('-' :: d :: (ds ++ cs)) = _
    rw [next?_minus first, number]
  · have written : Decimal.intText n.toInt = [] ++ Decimal.natText n.toInt.natAbs := by
      unfold Decimal.intText
      rw [if_neg negative]
      rfl
    have number := scanned written
    rw [hd, List.cons_append] at number
    rw [written, hd]
    show next? (d :: (ds ++ cs)) = _
    rw [next?_digit first, number]

theorem next?_text_quoted {s : String} (plain : s.toList.all (· != '\\') = true) {cs : List Char}
    (quote : cs.head? ≠ some '\'') :
    next? ((Token.literal (.text s)).text.toList ++ cs) = some (.literal (.text s), cs) := by
  have noBackslash : ∀ c ∈ s.toList, c ≠ '\\' := by
    intro c hc
    exact bne_iff_ne.1 (List.all_eq_true.1 plain c hc)
  rw [text_quoted, List.cons_append, List.append_assoc]
  show (scanQuoted '\'' (doubleQuotes s.toList ++ '\'' :: cs)).map _ = _
  rw [scanQuoted_doubleQuotes noBackslash quote]
  show some (Token.literal (.text (String.ofList s.toList)), cs) = _
  rw [String.ofList_toList]

/-- A sign that no longer sign begins with. -/
theorem next?_less {cs : List Char} (equal : cs.head? ≠ some '=') (greater : cs.head? ≠ some '>') :
    next? ('<' :: cs) = some (.comparison .less, cs) := by
  rw [next?]
  · rintro r rfl
    exact equal rfl
  · rintro r rfl
    exact greater rfl

theorem next?_greater {cs : List Char} (equal : cs.head? ≠ some '=') :
    next? ('>' :: cs) = some (.comparison .greater, cs) := by
  rw [next?]
  rintro r rfl
  exact equal rfl

theorem next?_text_comparison (op : Comparison) {cs : List Char}
    (sign : ∀ d, cs.head? = some d → d ≠ '=' ∧ d ≠ '>') :
    next? (op.symbol.toList ++ cs) = some (.comparison op, cs) := by
  have equal : cs.head? ≠ some '=' := fun h => (sign _ h).1 rfl
  have greater : cs.head? ≠ some '>' := fun h => (sign _ h).2 rfl
  cases op with
  | equal => rfl
  | notEqual => rfl
  | lessOrEqual => rfl
  | greaterOrEqual => rfl
  | less => exact next?_less equal greater
  | greater => exact next?_greater equal

/-- **The text of a token is read as that token**, up to where it ends. -/
theorem next?_text {t : Token} (plain : t.isPlain = true) {cs : List Char}
    (apart : joins t.text.toList cs = false) (ends : ∀ d, cs.head? = some d → t.EndsBefore d) :
    next? (t.text.toList ++ cs) = some (t, cs) := by
  cases t with
  | word w => exact next?_text_word plain apart
  | quotedName name => exact absurd plain (by simp [Token.isPlain])
  | parameter name => exact next?_text_parameter plain apart
  | comparison op => exact next?_text_comparison op fun d hd => (ends d hd).sign rfl
  | opening => rfl
  | closing => rfl
  | comma => rfl
  | semicolon => rfl
  | literal v =>
      cases v with
      | integer n => exact next?_text_integer apart fun h => (ends '.' h).point rfl
      | text s => exact next?_text_quoted plain fun h => (ends '\'' h).quote rfl rfl
      | null => exact absurd plain (by simp [Token.isPlain])
      | boolean b => exact absurd plain (by simp [Token.isPlain])
      | float x => exact absurd plain (by simp [Token.isPlain])

end Recordwise.Query
