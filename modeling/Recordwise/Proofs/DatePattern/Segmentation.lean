/-
  Recordwise.Proofs.DatePattern.Segmentation
  ──────────────────────────────────────────
  **What a pattern accepts.**

  A text of a pattern is cut into segments, one for each token: a literal text
  is its own segment, a year has four digits, and another field has two, or
  one where it is set off.  The reader takes as many digits as a field can
  have and never goes back.  If what ends a short field is no digit, that
  takes the segment of the field, so that the reader accepts exactly the texts
  that are cut into segments, and there is one way to cut each.  Main
  statements:

      eq_taken_of_isSegment     — the reader takes the segment of a token
      readTokens_eq_ok_iff      — it reads exactly the texts that are cut
      parse_eq_ok_iff_segmented — into the local time that the segments show
-/
import Mathlib.Data.List.Chain
import Recordwise.Proofs.DatePattern.RoundTrip
import Recordwise.Proofs.Failure.FailsWith

namespace Recordwise.DatePattern

open Calendar
open List (IsChain)

/-! ## §1. Segments. -/

/-- Whether a field between tokens may have one digit: literal text follows
it, or it ends the tokens right behind literal text. -/
def MayBeShort (before after : List Token) : Prop :=
  (∃ l ts, after = .literal l :: ts) ∨ (after = [] ∧ ∃ ts l, before = ts ++ [.literal l])

/-- Whether a text is a segment of a token between others. -/
def IsSegment (before after : List Token) (s : List Char) : Token → Prop
  | .literal l => s = l
  | .year => s.length = 4 ∧ ∀ c ∈ s, Decimal.isDigit c = true
  | _ => (s.length = 2 ∨ s.length = 1 ∧ MayBeShort before after) ∧
      ∀ c ∈ s, Decimal.isDigit c = true

/-- Whether texts are segments of the tokens that stand behind others, one for
each. -/
def AreSegments (before : List Token) : List Token → List (List Char) → Prop
  | [], [] => True
  | tok :: ts, s :: ss => IsSegment before ts s tok ∧ AreSegments (before ++ [tok]) ts ss
  | _, _ => False

/-- Whether a text is cut into segments of tokens. -/
def IsCut (ts : List Token) (cs : List Char) (ss : List (List Char)) : Prop :=
  AreSegments [] ts ss ∧ ss.flatten = cs

/-- The last segment of a field. -/
def lastSegment? (ts : List Token) (ss : List (List Char)) (tok : Token) : Option (List Char) :=
  (ts.zip ss).reverse.lookup tok

/-- The number that segments give a field: that of the last one that the field
has, or a default if it has none. -/
def numberOf (ts : List Token) (ss : List (List Char)) (default : Nat) (tok : Token) : Nat :=
  (lastSegment? ts ss tok).elim default fun s => Nat.ofDigitChars 10 s 0

/-- The local time that segments show. -/
def shownBy (ts : List Token) (ss : List (List Char)) : LocalTime where
  year := numberOf ts ss 0 .year
  month := numberOf ts ss 1 .month
  day := numberOf ts ss 1 .day
  hour := numberOf ts ss 0 .hour
  minute := numberOf ts ss 0 .minute
  second := numberOf ts ss 0 .second

/-- Whether a token ends before the next one: no literal text behind a field
that may be short is empty or begins with a digit. -/
def Token.EndsBefore (tok next : Token) : Prop :=
  tok.isLiteral = false → tok ≠ .year → ∀ l, next = .literal l →
    ∃ c cs, l = c :: cs ∧ Decimal.isDigit c = false

/-! ## §2. One token. -/

/-- Whether tokens end with literal text. -/
def endsLiteral (ts : List Token) : Bool := ts.getLast?.any Token.isLiteral

theorem endsLiteral_concat (ts : List Token) (tok : Token) :
    endsLiteral (ts ++ [tok]) = tok.isLiteral := by
  simp [endsLiteral]

theorem endsLiteral_iff (ts : List Token) :
    endsLiteral ts = true ↔ ∃ us l, ts = us ++ [.literal l] := by
  rcases List.eq_nil_or_concat ts with rfl | ⟨us, tok, rfl⟩
  · simp [endsLiteral]
  · rw [List.concat_eq_append, endsLiteral_concat]
    cases tok <;> simp [Token.isLiteral]

/-- A field is set off exactly where it may be short. -/
theorem isDelimited_iff (before after : List Token) :
    isDelimited (endsLiteral before) after = true ↔ MayBeShort before after := by
  cases after with
  | nil =>
      show endsLiteral before = true ↔ _
      rw [endsLiteral_iff]
      simp [MayBeShort]
  | cons tok ts => cases tok <;> simp [isDelimited, MayBeShort, Token.isLiteral]

theorem eq_nil_of_areSegments {before : List Token} {ss : List (List Char)}
    (h : AreSegments before [] ss) : ss = [] := by
  cases ss with
  | nil => rfl
  | cons s ss => cases h

/-- The segments of tokens: that of the first token, and those of the others
behind it. -/
theorem exists_cons_of_areSegments {before ts : List Token} {tok : Token}
    {ss : List (List Char)} (h : AreSegments before (tok :: ts) ss) :
    ∃ s ss', ss = s :: ss' ∧ IsSegment before ts s tok ∧ AreSegments (before ++ [tok]) ts ss' := by
  cases ss with
  | nil => cases h
  | cons s ss => exact ⟨s, ss, rfl, h⟩

/-- A segment of a field: as many digits as the field can have. -/
theorem isSegment_iff {tok : Token} (field : tok.isLiteral = false) (before after : List Token)
    (s : List Char) :
    IsSegment before after s tok ↔
      (leastDigits tok (endsLiteral before) after ≤ s.length ∧ s.length ≤ tok.width) ∧
        ∀ c ∈ s, Decimal.isDigit c = true := by
  have least {tok : Token} (plain : tok ≠ .year) (two : tok.width = 2) :
      (leastDigits tok (endsLiteral before) after ≤ s.length ∧ s.length ≤ tok.width) ↔
        (s.length = 2 ∨ s.length = 1 ∧ MayBeShort before after) := by
    unfold leastDigits
    rw [two, ← isDelimited_iff]
    cases isDelimited (endsLiteral before) after
    · simp [plain]
      omega
    · simp [plain]
      omega
  cases tok with
  | literal l => cases field
  | year =>
      have four : leastDigits .year (endsLiteral before) after = 4 := by
        simp [leastDigits, Token.width]
      show (s.length = 4 ∧ _) ↔ _
      rw [four]
      show (s.length = 4 ∧ _) ↔ (4 ≤ s.length ∧ s.length ≤ 4) ∧ _
      rw [show s.length = 4 ↔ 4 ≤ s.length ∧ s.length ≤ 4 by omega]
  | _ => exact and_congr_left fun _ => (least (by decide) rfl).symm

/-! ## §3. What the reader takes. -/

theorem isDigit_of_mem_leadingDigits {most : Nat} {cs : List Char} {c : Char}
    (h : c ∈ leadingDigits most cs) : Decimal.isDigit c = true :=
  List.all_eq_true.1 List.all_takeWhile c h

theorem length_leadingDigits_le (most : Nat) (cs : List Char) :
    (leadingDigits most cs).length ≤ most := by
  have taken := (List.takeWhile_prefix (l := cs.take most) Decimal.isDigit).length_le
  have cut := List.length_take_le most cs
  unfold leadingDigits
  omega

/-- The digits that a field takes stand at the front of the text. -/
theorem leadingDigits_append_drop (most : Nat) (cs : List Char) :
    leadingDigits most cs ++ cs.drop (leadingDigits most cs).length = cs := by
  have first : leadingDigits most cs <+: cs :=
    (List.takeWhile_prefix _).trans (List.take_prefix _ _)
  have front := List.prefix_iff_eq_take.1 first
  nth_rewrite 1 [front]
  rw [List.take_append_drop]

/-- A shorter run of digits that no digit follows is all that a field takes. -/
theorem leadingDigits_append_of_stop {most : Nat} {ds rest : List Char} (short : ds.length ≤ most)
    (digits : ∀ c ∈ ds, Decimal.isDigit c = true)
    (stop : ∀ c ∈ rest.head?, Decimal.isDigit c = false) :
    leadingDigits most (ds ++ rest) = ds := by
  unfold leadingDigits
  rw [List.take_append, List.take_of_length_le short, List.takeWhile_append_of_pos digits]
  have none : (rest.take (most - ds.length)).takeWhile Decimal.isDigit = [] := by
    cases rest with
    | nil => simp
    | cons c rest =>
        cases most - ds.length with
        | zero => rfl
        | succ n =>
            rw [List.take_succ_cons, List.takeWhile_cons_of_neg]
            simp [stop c rfl]
  rw [none, List.append_nil]

/-- The segment that the reader takes for a token. -/
def Token.taken (cs : List Char) : Token → List Char
  | .literal l => l
  | tok => leadingDigits tok.width cs

theorem Token.taken_field {tok : Token} (field : tok.isLiteral = false) (cs : List Char) :
    tok.taken cs = leadingDigits tok.width cs := by
  cases tok with
  | literal l => cases field
  | _ => rfl

/-- **The reader takes the segment of a token**, whatever segments stand
behind it. -/
theorem eq_taken_of_isSegment {before after : List Token} {tok : Token} {s : List Char}
    {ss : List (List Char)} (ends : IsChain Token.EndsBefore (tok :: after))
    (segment : IsSegment before after s tok)
    (segments : AreSegments (before ++ [tok]) after ss) : tok.taken (s ++ ss.flatten) = s := by
  rcases tok.literal_or_field with ⟨l, rfl⟩ | field
  · have own : s = l := segment
    exact own.symm
  · obtain ⟨⟨least, most⟩, digits⟩ := (isSegment_iff field before after s).1 segment
    rw [Token.taken_field field]
    by_cases full : s.length = tok.width
    · exact leadingDigits_append full digits _
    · -- the field is short, so that it is set off, and what sets it off is no digit
      refine leadingDigits_append_of_stop most digits ?_
      have plain : tok ≠ .year := by
        intro year
        subst year
        simp [leastDigits] at least
        omega
      have delimited : isDelimited (endsLiteral before) after = true := by
        by_contra inner
        unfold leastDigits at least
        simp [inner] at least
        omega
      rcases (isDelimited_iff before after).1 delimited with ⟨l, ts, rfl⟩ | ⟨rfl, -⟩
      · obtain ⟨next, ss', rfl, own, -⟩ := exists_cons_of_areSegments segments
        have own : next = l := own
        obtain ⟨c, cs, text, stop⟩ := ends.rel_head? rfl field plain l rfl
        rw [own, text]
        intro d hd
        have first : c = d := Option.some.inj hd
        rw [← first]
        exact stop
      · rw [eq_nil_of_areSegments segments]
        intro c hc
        cases hc

/-! ## §4. Reading and cutting. -/

/-- The fields as they are set by segments, one after the other. -/
def Reading.setAll (r : Reading) (ts : List Token) (ss : List (List Char)) : Reading :=
  (ts.zip ss).foldl (fun r p => r.set (Decimal.natOfDigits p.2) p.1) r

theorem Reading.setAll_cons (r : Reading) (tok : Token) (ts : List Token) (s : List Char)
    (ss : List (List Char)) :
    r.setAll (tok :: ts) (s :: ss) = (r.set (Decimal.natOfDigits s) tok).setAll ts ss := rfl

/-- What is read is cut into segments. -/
theorem exists_segments_of_readTokens {ts : List Token} {before : List Token} {cs : List Char}
    {r r' : Reading} (h : readTokens (endsLiteral before) ts cs r = .ok r') :
    ∃ ss, AreSegments before ts ss ∧ ss.flatten = cs ∧ r.setAll ts ss = r' := by
  -- a token that is read joins those before, whose last one tells what is set off
  induction ts generalizing before cs r with
  | nil =>
      cases cs with
      | nil => exact ⟨[], trivial, rfl, Except.ok.inj h⟩
      | cons c cs => cases h
  | cons tok ts ih =>
      rcases tok.literal_or_field with ⟨l, rfl⟩ | field
      · rw [readTokens] at h
        split at h
        · rename_i rest found
          rw [show true = endsLiteral (before ++ [.literal l]) by rw [endsLiteral_concat]; rfl] at h
          obtain ⟨ss, segments, flat, set⟩ := ih h
          refine ⟨l :: ss, ⟨rfl, segments⟩, ?_, ?_⟩
          · rw [List.flatten_cons, flat, stripLiteral?_eq_some found]
          · rw [Reading.setAll_cons]
            exact set
        · cases h
      · rw [readTokens_field field] at h
        split at h
        · cases h
        · rename_i enough
          rw [show false = endsLiteral (before ++ [tok]) by rw [endsLiteral_concat, field]] at h
          obtain ⟨ss, segments, flat, set⟩ := ih h
          refine ⟨leadingDigits tok.width cs :: ss, ⟨?_, segments⟩, ?_, ?_⟩
          · refine (isSegment_iff field before ts _).2 ⟨⟨by omega, ?_⟩, ?_⟩
            · exact length_leadingDigits_le _ _
            · intro c hc
              exact isDigit_of_mem_leadingDigits hc
          · rw [List.flatten_cons, flat, leadingDigits_append_drop]
          · rw [Reading.setAll_cons]
            exact set

/-- A text that is cut into segments is read. -/
theorem readTokens_flatten {ts : List Token} (ends : IsChain Token.EndsBefore ts)
    {before : List Token} {ss : List (List Char)} (segments : AreSegments before ts ss)
    (r : Reading) :
    readTokens (endsLiteral before) ts ss.flatten r = .ok (r.setAll ts ss) := by
  induction ts generalizing before ss r with
  | nil =>
      rw [eq_nil_of_areSegments segments]
      rfl
  | cons tok ts ih =>
      obtain ⟨s, ss, rfl, segment, rest⟩ := exists_cons_of_areSegments segments
      have taken := eq_taken_of_isSegment ends segment rest
      have read := ih ends.tail rest
      rw [endsLiteral_concat] at read
      rw [List.flatten_cons, Reading.setAll_cons]
      rcases tok.literal_or_field with ⟨l, rfl⟩ | field
      · have own : s = l := segment
        rw [own, readTokens_literal]
        exact read r
      · rw [Token.taken_field field] at taken
        have enough := ((isSegment_iff field before ts s).1 segment).1.1
        rw [readTokens_field field, taken, if_neg (by omega), List.drop_left]
        rw [field] at read
        exact read _

/-- **The reader accepts exactly the texts that are cut into segments.** -/
theorem readTokens_eq_ok_iff {ts : List Token} (ends : IsChain Token.EndsBefore ts)
    (cs : List Char) (r r' : Reading) :
    readTokens false ts cs r = .ok r' ↔ ∃ ss, IsCut ts cs ss ∧ r.setAll ts ss = r' := by
  constructor
  · intro read
    have read : readTokens (endsLiteral []) ts cs r = .ok r' := read
    obtain ⟨ss, segments, flat, set⟩ := exists_segments_of_readTokens read
    exact ⟨ss, ⟨segments, flat⟩, set⟩
  · intro cut
    obtain ⟨ss, ⟨segments, rfl⟩, rfl⟩ := cut
    exact readTokens_flatten ends segments r

theorem segments_unique {ts : List Token} (ends : IsChain Token.EndsBefore ts)
    {before : List Token} {ss ss' : List (List Char)} (one : AreSegments before ts ss)
    (other : AreSegments before ts ss') (same : ss.flatten = ss'.flatten) : ss = ss' := by
  induction ts generalizing before ss ss' with
  | nil => rw [eq_nil_of_areSegments one, eq_nil_of_areSegments other]
  | cons tok ts ih =>
      obtain ⟨s, us, rfl, segment, rest⟩ := exists_cons_of_areSegments one
      obtain ⟨s', us', rfl, segment', rest'⟩ := exists_cons_of_areSegments other
      -- both first segments are what the reader takes of the text
      have first := eq_taken_of_isSegment ends segment rest
      have first' := eq_taken_of_isSegment ends segment' rest'
      rw [List.flatten_cons, List.flatten_cons] at same
      rw [same, first'] at first
      rw [first, List.append_cancel_left_eq] at same
      rw [first, ih ends.tail rest rest' same]

/-- **There is one way to cut a text.** -/
theorem eq_of_isCut {ts : List Token} (ends : IsChain Token.EndsBefore ts) {cs : List Char}
    {ss ss' : List (List Char)} (h : IsCut ts cs ss) (h' : IsCut ts cs ss') : ss = ss' :=
  segments_unique ends h.1 h'.1 (h.2.trans h'.2.symm)

/-! ## §5. What segments show. -/

theorem lastSegment?_cons (ts : List Token) (ss : List (List Char)) (s : List Char)
    (tok tok' : Token) :
    lastSegment? (tok' :: ts) (s :: ss) tok =
      (lastSegment? ts ss tok).or (if tok' = tok then some s else none) := by
  unfold lastSegment?
  rw [List.zip_cons_cons, List.reverse_cons, List.lookup_append]
  by_cases same : tok' = tok
  · subst same
    simp
  · rw [List.lookup_cons, beq_eq_false_iff_ne.2 (Ne.symm same), if_neg same]
    rfl

/-- **What segments set**: every field to the number of its last segment. -/
theorem setAll_eq (r : Reading) (ts : List Token) (ss : List (List Char)) :
    r.setAll ts ss =
      { year? := (lastSegment? ts ss .year).elim r.year? fun s => some (Nat.ofDigitChars 10 s 0)
        month := numberOf ts ss r.month .month
        day := numberOf ts ss r.day .day
        hour := numberOf ts ss r.hour .hour
        minute := numberOf ts ss r.minute .minute
        second := numberOf ts ss r.second .second } := by
  have later {α : Type} (x : Option (List Char)) (s : List Char) (d : α) (f : List Char → α) :
      (x.or (some s)).elim d f = x.elim (f s) f := by
    cases x <;> rfl
  induction ts generalizing r ss with
  | nil => rfl
  | cons tok ts ih =>
      cases ss with
      | nil => rfl
      | cons s ss =>
          -- a later segment of the same field hides the number that is set first
          rw [Reading.setAll_cons, ih]
          cases tok <;>
            simp [Reading.set, numberOf, lastSegment?_cons, later, Decimal.natOfDigits_eq,
              -Option.or_some]

/-- A field has a segment exactly if it is one of the tokens. -/
theorem isSome_lastSegment? {before ts : List Token} {ss : List (List Char)}
    (segments : AreSegments before ts ss) (tok : Token) :
    (lastSegment? ts ss tok).isSome = true ↔ tok ∈ ts := by
  induction ts generalizing before ss with
  | nil => simp [lastSegment?]
  | cons tok' ts ih =>
      obtain ⟨s, ss, rfl, -, rest⟩ := exists_cons_of_areSegments segments
      rw [lastSegment?_cons, Option.isSome_or, Bool.or_eq_true, ih rest, List.mem_cons]
      by_cases same : tok' = tok
      · simp [same]
      · simp [same, Ne.symm same]

/-- A local time is valid if its month, its date and its clock time are: the
month is checked on its own and again with the date. -/
theorem isValid_iff_checks (d : Date) (hour minute second : Nat) :
    LocalTime.isValid ⟨d, hour, minute, second⟩ = true ↔
      ¬(d.month < 1 ∨ 12 < d.month) ∧ d.isValid = true ∧
        LocalTime.isClockTime hour minute second = true := by
  rw [LocalTime.isValid_iff_parts]
  constructor
  · intro h
    have date : d.isValid = true := h.1
    obtain ⟨first, last, -⟩ := Date.isValid_iff_bounds.1 date
    exact ⟨by omega, h⟩
  · intro h
    exact h.2

/-- **The checks of the reader are those of a local time.** -/
theorem finish_eq_ok_iff (r : Reading) (t : LocalTime) :
    r.finish = .ok t ↔ ∃ y, r.year? = some y ∧ t.isValid = true ∧
      t = ⟨⟨y, r.month, r.day⟩, r.hour, r.minute, r.second⟩ := by
  unfold Reading.finish
  cases r.year? with
  | none => simp
  | some y =>
      have valid := isValid_iff_checks ⟨y, r.month, r.day⟩ r.hour r.minute r.second
      constructor
      · intro finished
        simp only at finished
        split at finished
        · cases finished
        · rename_i month
          split at finished
          · cases finished
          · rename_i date
            split at finished
            · cases finished
            · rename_i clock
              have same := Except.ok.inj finished
              refine ⟨y, rfl, ?_, same.symm⟩
              rw [← same, valid]
              exact ⟨month, by simpa using date, by simpa using clock⟩
      · intro shown
        obtain ⟨y', year, checks, same⟩ := shown
        have sameYear : y = y' := Option.some.inj year
        subst sameYear
        rw [same] at checks ⊢
        obtain ⟨month, date, clock⟩ := valid.1 checks
        simp only [if_neg month, date, clock]
        rfl

/-- **The local time that is read is the one that the segments show.** -/
theorem finish_setAll {before ts : List Token} {ss : List (List Char)}
    (segments : AreSegments before ts ss) (t : LocalTime) :
    (Reading.setAll {} ts ss).finish = .ok t ↔
      .year ∈ ts ∧ (shownBy ts ss).isValid = true ∧ t = shownBy ts ss := by
  rw [finish_eq_ok_iff, setAll_eq, ← isSome_lastSegment? segments]
  cases year : lastSegment? ts ss .year with
  | none => simp
  | some s =>
      have shown : shownBy ts ss = ⟨⟨Nat.ofDigitChars 10 s 0, numberOf ts ss 1 .month,
          numberOf ts ss 1 .day⟩, numberOf ts ss 0 .hour, numberOf ts ss 0 .minute,
          numberOf ts ss 0 .second⟩ := by
        unfold shownBy
        have first : numberOf ts ss 0 .year = Nat.ofDigitChars 10 s 0 := by
          unfold numberOf
          rw [year]
          rfl
        rw [first]
      rw [shown]
      constructor
      · intro h
        obtain ⟨y, hy, valid, same⟩ := h
        have number : Nat.ofDigitChars 10 s 0 = y := Option.some.inj hy
        rw [← number] at same
        rw [same] at valid
        exact ⟨rfl, valid, same⟩
      · intro h
        obtain ⟨-, valid, same⟩ := h
        rw [← same] at valid
        exact ⟨_, rfl, valid, same⟩

/-! ## §6. Patterns. -/

/-- What is read is cut into segments that show it, whatever ends the short
fields. -/
theorem exists_isCut_of_parse {p : DatePattern} {text : String} {t : LocalTime}
    (read : p.parse text = .ok t) :
    ∃ ss, IsCut p.tokens text.toList ss ∧ .year ∈ p.tokens ∧
      (shownBy p.tokens ss).isValid = true ∧ t = shownBy p.tokens ss := by
  unfold parse at read
  obtain ⟨r, taken, finished⟩ := bind_eq_ok_iff.1 read
  have taken : readTokens (endsLiteral []) p.tokens text.toList {} = .ok r := taken
  obtain ⟨ss, segments, flat, rfl⟩ := exists_segments_of_readTokens taken
  exact ⟨ss, ⟨segments, flat⟩, (finish_setAll segments t).1 finished⟩

/-- **A pattern accepts exactly the texts that are cut into its segments**,
there is one way to cut each, and what is read is what the segments show. -/
theorem parse_eq_ok_iff_segmented {p : DatePattern} (ends : IsChain Token.EndsBefore p.tokens)
    (text : String) :
    (∀ t, p.parse text = .ok t ↔
      ∃ ss, IsCut p.tokens text.toList ss ∧ .year ∈ p.tokens ∧
        (shownBy p.tokens ss).isValid = true ∧ t = shownBy p.tokens ss) ∧
      ∀ ss ss', IsCut p.tokens text.toList ss → IsCut p.tokens text.toList ss' → ss = ss' := by
  refine ⟨?_, fun ss ss' => eq_of_isCut ends⟩
  intro t
  unfold parse
  constructor
  · intro read
    obtain ⟨r, taken, finished⟩ := bind_eq_ok_iff.1 read
    obtain ⟨ss, cut, rfl⟩ := (readTokens_eq_ok_iff ends _ _ _).1 taken
    exact ⟨ss, cut, (finish_setAll cut.1 t).1 finished⟩
  · intro shown
    obtain ⟨ss, cut, rest⟩ := shown
    have taken := (readTokens_eq_ok_iff ends text.toList {} _).2 ⟨ss, cut, rfl⟩
    rw [taken]
    exact (finish_setAll cut.1 t).2 rest

/-- A month of one digit before a slash, and again in front, where it does not
count. -/
theorem parse_eq_ok_iff_segmented_leapDay :
    let p : DatePattern := ⟨"MM月dd, MM/yyyy",
      [.month, .literal ['月'], .day, .literal [',', ' '], .month, .literal ['/'], .year]⟩
    let cut : List (List Char) :=
      [['1', '2'], ['月'], ['2', '9'], [',', ' '], ['2'], ['/'], ['2', '0', '2', '4']]
    compile "MM月dd, MM/yyyy" = .ok p ∧ IsChain Token.EndsBefore p.tokens ∧
      p.parse "12月29, 2/2024" = .ok ⟨⟨2024, 2, 29⟩, 0, 0, 0⟩ ∧
      ∀ ss, IsCut p.tokens "12月29, 2/2024".toList ss → ss = cut := by
  intro p cut
  have ends : IsChain Token.EndsBefore p.tokens := by
    simp [p, Token.EndsBefore, Token.isLiteral]
    decide
  have isCut : IsCut p.tokens "12月29, 2/2024".toList cut := by
    refine ⟨?_, rfl⟩
    simp [p, cut, AreSegments, IsSegment, MayBeShort]
    decide
  obtain ⟨accepted, unique⟩ := parse_eq_ok_iff_segmented ends "12月29, 2/2024"
  refine ⟨rfl, ends, ?_, fun ss h => unique ss cut h isCut⟩
  exact (accepted _).2 ⟨cut, isCut, by decide, by decide, by decide⟩

end Recordwise.DatePattern
