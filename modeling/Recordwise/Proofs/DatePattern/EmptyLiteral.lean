/-
  Recordwise.Proofs.DatePattern.EmptyLiteral
  ──────────────────────────────────────────
  **Where compiled patterns have empty literal text.**

  Compiled tokens are in normal form but for one case: two quotes with nothing
  between them are a literal text of their own where a field or an end of the
  pattern stands on both sides.  The fields beside them count as set off, with
  nothing that sets them off.  Main statements:

      hasLoneQuotes_of_spells — empty literal text is spelt by such quotes
      mem_of_hasLoneQuotes    — and such quotes spell empty literal text
      normal_unless_lone      — the tokens of a compiled pattern
-/
import Recordwise.Proofs.DatePattern.Segmentation
import Recordwise.Proofs.DatePattern.Spelling

namespace Recordwise.DatePattern

open List (IsChain)
open Query (doubleQuotes)

/-- Whether quotes with nothing between them stand on their own: outside
quotes, and with a letter or an end of the text on both sides. -/
def HasLoneQuotes (cs : List Char) : Prop := HasQuotes (fun c => isLetter c = true) cs

/-! ## §1. Empty literal text. -/

theorem isLetter_of_mem_letters {tok : Token} {c : Char} (h : c ∈ tok.letters) :
    isLetter c = true := by
  have all : tok.letters.all isLetter = true := by
    cases tok with
    | literal l => rfl
    | _ => rfl
  exact List.all_eq_true.1 all c h

/-- What stands behind literal text begins with a letter. -/
theorem isLetter_head_spells {Allowed : Piece → Prop} {ts : List Token} {cs : List Char}
    (h : Spells Allowed ts cs) (field : ∀ tok ∈ ts.head?, tok.isLiteral = false) :
    ∀ c ∈ cs.head?, isLetter c = true := by
  cases h with
  | nil => simp
  | field plain rest =>
      obtain ⟨c, first, letter⟩ := head?_letters plain _
      rw [first]
      intro d hd
      rw [← Option.some.inj hd]
      exact letter
  | literal ne allowed apart rest => cases field _ rfl

/-- Pieces without text are one pair of quotes. -/
theorem eq_singleton_of_text {ps : List Piece} (ne : ps ≠ []) (apart : IsChain Piece.Apart ps)
    (noText : ps.flatMap Piece.text = []) : ps = [.quoted []] := by
  have each := List.flatMap_eq_nil_iff.1 noText
  cases ps with
  | nil => exact absurd rfl ne
  | cons p ps =>
      have first := eq_quoted_of_text (each p List.mem_cons_self)
      cases ps with
      | nil => rw [first]
      | cons q ps =>
          have second := eq_quoted_of_text (each q (List.mem_cons_of_mem p List.mem_cons_self))
          rw [first, second] at apart
          cases apart.rel_head? rfl rfl

/-- **Empty literal text is spelt by quotes that stand on their own.** -/
theorem hasLoneQuotes_of_spells {ts : List Token} {cs : List Char}
    (h : Spells (fun _ => True) ts cs) (apart : IsChain Token.Apart ts)
    (empty : .literal [] ∈ ts) : HasLoneQuotes cs := by
  induction h with
  | nil => cases empty
  | @field tok ts cs plain rest ih =>
      have behind : .literal [] ∈ ts := by
        rcases List.mem_cons.1 empty with rfl | behind
        · cases plain
        · exact behind
      refine HasQuotes.append (ih apart.tail behind) ?_ fun _ c hc => ?_
      · rw [List.count_eq_zero.2 (quote_notMem_letters tok)]
      · exact isLetter_of_mem_letters (List.mem_of_mem_getLast? hc)
  | @literal ps ts cs ne _ pieces rest ih =>
      have field : ∀ tok ∈ ts.head?, tok.isLiteral = false :=
        fun tok first => apart.rel_head? first rfl
      have letter := isLetter_head_spells rest field
      rcases List.mem_cons.1 empty with first | behind
      · have alone := eq_singleton_of_text ne pieces (Token.literal.inj first).symm
        rw [alone]
        exact ⟨[], cs, rfl, rfl, by simp, letter⟩
      · refine HasQuotes.append (ih apart.tail behind) (count_pieces ps) fun first => ?_
        -- what stands behind the literal text begins with no quote
        have quote := letter '\'' first
        cases quote

/-! ## §2. Lone quotes. -/

/-- A text without quotes in front stands in front of the quotes. -/
theorem split_of_noQuote {front rest u v : List Char} (no : '\'' ∉ front)
    (h : front ++ rest = u ++ '\'' :: v) : ∃ u', u = front ++ u' ∧ rest = u' ++ '\'' :: v := by
  rcases List.append_eq_append_iff.1 h with ⟨u', hu, hrest⟩ | ⟨w, hfront, hv⟩
  · exact ⟨u', hu, hrest⟩
  · cases w with
    | nil =>
        rw [List.append_nil] at hfront
        exact ⟨[], by rw [hfront, List.append_nil], hv.symm⟩
    | cons c w =>
        have quote := (List.cons.inj hv).1
        rw [hfront, ← quote] at no
        simp at no

/-- Behind an open quote lone quotes stand behind the quote that closes it. -/
theorem split_of_quoted {cs rest u v : List Char}
    (h : doubleQuotes cs ++ '\'' :: rest = u ++ '\'' :: '\'' :: v)
    (odd : u.count '\'' % 2 = 1) (last : u.getLast? ≠ some '\'') :
    ∃ u', u = doubleQuotes cs ++ '\'' :: u' ∧ rest = u' ++ '\'' :: '\'' :: v := by
  induction cs generalizing u with
  | nil =>
      cases u with
      | nil => cases odd
      | cons a u =>
          obtain ⟨first, behind⟩ := List.cons.inj h
          exact ⟨u, by rw [← first]; rfl, behind⟩
  | cons c cs ih =>
      by_cases quote : c = '\''
      · -- a doubled quote: the lone quotes do not begin in the middle of it
        rw [doubleQuotes, if_pos quote, quote] at h ⊢
        cases u with
        | nil => cases odd
        | cons a u =>
            obtain ⟨first, h⟩ := List.cons.inj h
            cases u with
            | nil =>
                rw [← first] at last
                exact absurd rfl last
            | cons b u =>
                obtain ⟨second, h⟩ := List.cons.inj h
                rw [← first, ← second, List.count_cons_self, List.count_cons_self] at odd
                cases u with
                | nil => cases odd
                | cons d u =>
                    rw [List.getLast?_cons_cons, List.getLast?_cons_cons] at last
                    obtain ⟨u', hu, hrest⟩ := ih h (by omega) last
                    exact ⟨u', by rw [← first, ← second, hu]; rfl, hrest⟩
      · rw [doubleQuotes, if_neg quote] at h ⊢
        cases u with
        | nil => cases odd
        | cons a u =>
            obtain ⟨first, h⟩ := List.cons.inj h
            rw [← first, List.count_cons_of_ne quote] at odd
            cases u with
            | nil => cases odd
            | cons b u =>
                rw [List.getLast?_cons_cons] at last
                obtain ⟨u', hu, hrest⟩ := ih h odd last
                exact ⟨u', by rw [← first, hu]; rfl, hrest⟩

/-- Lone quotes are the piece in front or stand behind it. -/
theorem split_of_piece (p : Piece) {rest u v : List Char}
    (h : p.written ++ rest = u ++ '\'' :: '\'' :: v) (even : u.count '\'' % 2 = 0)
    (last : u.getLast? ≠ some '\'') (next : v.head? ≠ some '\'') :
    (p = .quoted [] ∧ u = [] ∧ rest = v) ∨
      ∃ u', u = p.written ++ u' ∧ rest = u' ++ '\'' :: '\'' :: v := by
  cases p with
  | bare cs plain => exact .inr (split_of_noQuote (fun quote => (plain.2 _ quote).2 rfl) h)
  | quoted cs =>
      have h : '\'' :: (doubleQuotes cs ++ ['\''] ++ rest) = u ++ '\'' :: '\'' :: v := h
      rw [List.append_assoc, List.singleton_append] at h
      cases u with
      | nil =>
          have h := (List.cons.inj h).2
          cases cs with
          | nil => exact .inl ⟨rfl, rfl, (List.cons.inj h).2⟩
          | cons c cs =>
              by_cases quote : c = '\''
              · rw [doubleQuotes, if_pos quote, quote] at h
                rw [← (List.cons.inj h).2] at next
                exact absurd rfl next
              · rw [doubleQuotes, if_neg quote] at h
                exact absurd (List.cons.inj h).1 quote
      | cons a u =>
          obtain ⟨first, h⟩ := List.cons.inj h
          cases u with
          | nil =>
              rw [← first] at last
              exact absurd rfl last
          | cons b u =>
              rw [← first, List.count_cons_self] at even
              rw [List.getLast?_cons_cons] at last
              obtain ⟨u', hu, hrest⟩ := split_of_quoted h (by omega) last
              refine .inr ⟨u', ?_, hrest⟩
              rw [← first, hu]
              simp [Piece.written]

/-- A piece begins and ends with no letter. -/
theorem isLetter_ends_written (p : Piece) (r : List Char) :
    (∃ c, (p.written ++ r).head? = some c ∧ isLetter c = false) ∧
      ∃ c, (r ++ p.written).getLast? = some c ∧ isLetter c = false := by
  cases p with
  | quoted cs =>
      refine ⟨⟨'\'', rfl, rfl⟩, '\'', ?_, rfl⟩
      rw [Piece.written, ← List.cons_append, ← List.append_assoc, List.getLast?_concat]
  | bare cs plain =>
      obtain ⟨ne, plain⟩ := plain
      constructor
      · cases cs with
        | nil => exact absurd rfl ne
        | cons c cs => exact ⟨c, rfl, (plain c List.mem_cons_self).1⟩
      · refine ⟨cs.getLast ne, ?_, (plain _ (List.getLast_mem ne)).1⟩
        rw [Piece.written, List.getLast?_append_of_ne_nil _ ne, List.getLast?_eq_some_getLast ne]

theorem forall_getLast?_of_append {P : Char → Prop} {front u : List Char}
    (h : ∀ c ∈ (front ++ u).getLast?, P c) : ∀ c ∈ u.getLast?, P c := by
  cases u with
  | nil => simp
  | cons c u =>
      rw [List.getLast?_append_of_ne_nil _ (List.cons_ne_nil c u)] at h
      exact h

theorem ne_quote_of_letter {o : Option Char} (h : ∀ c ∈ o, isLetter c = true) :
    o ≠ some '\'' := by
  intro same
  have letter := h '\'' same
  cases letter

/-- Lone quotes are all pieces of a literal text or stand behind them. -/
theorem split_of_pieces {ps : List Piece} (apart : IsChain Piece.Apart ps) {rest u v : List Char}
    (h : ps.flatMap Piece.written ++ rest = u ++ '\'' :: '\'' :: v)
    (even : u.count '\'' % 2 = 0) (last : ∀ c ∈ u.getLast?, isLetter c = true)
    (next : ∀ c ∈ v.head?, isLetter c = true) :
    (ps = [.quoted []] ∧ u = []) ∨
      ∃ u', u = ps.flatMap Piece.written ++ u' ∧ rest = u' ++ '\'' :: '\'' :: v := by
  induction ps generalizing u with
  | nil => exact .inr ⟨u, rfl, h⟩
  | cons p ps ih =>
      rw [List.flatMap_cons, List.append_assoc] at h
      rcases split_of_piece p h even (ne_quote_of_letter last) (ne_quote_of_letter next) with
        ⟨quotes, front, behind⟩ | ⟨u', hu, behind⟩
      · cases ps with
        | nil => exact .inl ⟨by rw [quotes], front⟩
        | cons q ps =>
            -- a piece behind them would begin with no letter
            obtain ⟨⟨c, first, plain⟩, -⟩ :=
              isLetter_ends_written q (ps.flatMap Piece.written ++ rest)
            rw [← behind, List.flatMap_cons, List.append_assoc] at next
            rw [next c first] at plain
            cases plain
      · have pairs := count_written p
        rw [hu, List.count_append] at even
        have lastRest := last
        rw [hu] at lastRest
        rcases ih apart.tail behind (by omega) (forall_getLast?_of_append lastRest) with
          ⟨-, front⟩ | ⟨u'', hu'', rest'⟩
        · -- a piece in front of them would end with no letter
          obtain ⟨-, c, end', plain⟩ := isLetter_ends_written p []
          rw [front, List.append_nil] at hu
          rw [List.nil_append] at end'
          rw [hu] at last
          rw [last c end'] at plain
          cases plain
        · refine .inr ⟨u'', ?_, rest'⟩
          rw [hu, hu'', List.flatMap_cons, List.append_assoc]

/-- **Quotes that stand on their own spell empty literal text.** -/
theorem mem_of_hasLoneQuotes {ts : List Token} {cs : List Char}
    (h : Spells (fun _ => True) ts cs) (lone : HasLoneQuotes cs) : .literal [] ∈ ts := by
  induction h with
  | nil =>
      obtain ⟨u, v, split, -⟩ := lone
      simp at split
  | @field tok ts cs plain rest ih =>
      obtain ⟨u, v, split, count, last, next⟩ := lone
      obtain ⟨u', hu, behind⟩ := split_of_noQuote (quote_notMem_letters tok) split
      have none : tok.letters.count '\'' = 0 := List.count_eq_zero.2 (quote_notMem_letters tok)
      rw [hu] at last
      rw [hu, List.count_append, none, Nat.zero_add] at count
      exact List.mem_cons_of_mem _
        (ih ⟨u', v, behind, count, forall_getLast?_of_append last, next⟩)
  | @literal ps ts cs ne _ pieces rest ih =>
      obtain ⟨u, v, split, count, last, next⟩ := lone
      rcases split_of_pieces pieces split count last next with ⟨alone, -⟩ | ⟨u', hu, behind⟩
      · rw [alone]
        exact List.mem_cons_self
      · have pairs := count_pieces ps
        rw [hu] at last
        rw [hu, List.count_append] at count
        exact List.mem_cons_of_mem _
          (ih ⟨u', v, behind, by omega, forall_getLast?_of_append last, next⟩)

/-! ## §3. Compiled patterns. -/

/-- **The tokens of a compiled pattern are in normal form but for lone quotes.**
There are some, no two literal texts are neighbours, and a literal text is
empty exactly where quotes stand on their own.  Without such quotes a field
that counts as set off has a character beside it that sets it off. -/
theorem normal_unless_lone {source : String} {p : DatePattern} (h : compile source = .ok p) :
    p.tokens ≠ [] ∧ IsChain Token.Apart p.tokens ∧
      (.literal [] ∈ p.tokens ↔ HasLoneQuotes source.toList) ∧
      (¬HasLoneQuotes source.toList → ∀ before tok after, p.tokens = before ++ tok :: after →
        tok.isLiteral = false → isDelimited (endsLiteral before) after = true →
        ∃ c l, after.head? = some (.literal (c :: l)) ∨
          after = [] ∧ before.getLast? = some (.literal (c :: l))) := by
  obtain ⟨-, some, read⟩ := (compile_eq_ok_iff source p).1 h
  obtain ⟨apart, spelt⟩ := (scan_eq_ok_iff _ _).1 read
  have empty : .literal [] ∈ p.tokens ↔ HasLoneQuotes source.toList :=
    ⟨hasLoneQuotes_of_spells spelt apart, mem_of_hasLoneQuotes spelt⟩
  refine ⟨some, apart, empty, ?_⟩
  intro noQuotes before tok after split _ delimited
  have filled {l : List Char} (present : Token.literal l ∈ p.tokens) : ∃ c cs, l = c :: cs := by
    refine List.exists_cons_of_ne_nil ?_
    intro nothing
    rw [nothing] at present
    exact noQuotes (empty.1 present)
  rcases (isDelimited_iff before after).1 delimited with ⟨l, ts, rfl⟩ | ⟨rfl, ts, l, rfl⟩
  · obtain ⟨c, cs, rfl⟩ := @filled l (by simp [split])
    exact ⟨c, cs, .inl rfl⟩
  · obtain ⟨c, cs, rfl⟩ := @filled l (by simp [split])
    exact ⟨c, cs, .inr ⟨rfl, List.getLast?_concat⟩⟩

/-- Quotes in front of a year stand on their own, and quotes beside a dash join
it. -/
theorem normal_unless_lone_inFront :
    compile "''yyyy''-MM" = .ok ⟨"''yyyy''-MM", [.literal [], .year, .literal ['-'], .month]⟩ ∧
      HasLoneQuotes "''yyyy''-MM".toList := by
  have compiled : compile "''yyyy''-MM" =
      .ok ⟨"''yyyy''-MM", [.literal [], .year, .literal ['-'], .month]⟩ := rfl
  obtain ⟨-, -, empty, -⟩ := normal_unless_lone compiled
  exact ⟨compiled, empty.1 (by decide)⟩

/-- Quotes between a month and a day are an empty literal text, and the month and
the day count as set off by it: one digit is enough for the day. -/
theorem not_isNormal_emptyQuotes :
    ∃ p, compile "yyyyMM''dd" = .ok p ∧ ¬IsNormal p.tokens ∧
      p.tokens = [.year, .month, .literal [], .day] ∧
      isDelimited (endsLiteral [.year]) [.literal [], .day] = true ∧
      p.parse "2024123" = .ok ⟨⟨2024, 12, 3⟩, 0, 0, 0⟩ := by
  refine ⟨⟨"yyyyMM''dd", [.year, .month, .literal [], .day]⟩, rfl, ?_, rfl, rfl, by decide⟩
  intro normal
  exact normal.filled (by decide)

end Recordwise.DatePattern
