/-
  Recordwise.Proofs.DatePattern.BlankEnds
  ───────────────────────────────────────
  **Patterns whose text begins or ends with a blank.**

  The text of a local time begins and ends as the pattern does: with a digit
  of a field, or with a character of literal text.  Trimming keeps the text
  unless literal text puts a blank at an end; then nothing that is trimmed is
  read by the pattern.  Main statements:

      trimmed_format        — without a blank end the text is kept
      exists_parse_trimmed  — with a blank end no trimmed text is read
-/
import Recordwise.Proofs.DatePattern.NormalForm
import Recordwise.Proofs.DatePattern.RoundTrip
import Recordwise.Text.Blank

namespace Recordwise.DatePattern

open Calendar
open List (IsChain)

/-! ## §1. The ends of a pattern. -/

/-- Whether a token is literal text that begins with a blank. -/
def Token.beginsBlank : Token → Bool
  | .literal cs => cs.head?.any Text.isBlank
  | _ => false

/-- Whether a token is literal text that ends with a blank. -/
def Token.endsBlank : Token → Bool
  | .literal cs => cs.getLast?.any Text.isBlank
  | _ => false

/-- Whether the text that a pattern writes begins or ends with a blank. -/
def hasBlankEnd (p : DatePattern) : Bool :=
  p.tokens.head?.any Token.beginsBlank || p.tokens.getLast?.any Token.endsBlank

theorem ends_of_field {tok : Token} (field : tok.isLiteral = false) :
    tok.beginsBlank = false ∧ tok.endsBlank = false := by
  cases tok with
  | literal l => cases field
  | _ => exact ⟨rfl, rfl⟩

/-! ## §2. The ends of the text. -/

theorem formatTokens_cons (tok : Token) (ts : List Token) (t : LocalTime) :
    formatTokens (tok :: ts) t = tok.format t ++ formatTokens ts t := by
  unfold formatTokens
  rw [List.flatMap_cons]

theorem formatTokens_concat (ts : List Token) (tok : Token) (t : LocalTime) :
    formatTokens (ts ++ [tok]) t = formatTokens ts t ++ tok.format t := by
  rw [format_append, formatTokens_cons]
  show formatTokens ts t ++ (tok.format t ++ []) = _
  rw [List.append_nil]

/-- The text of a field is not empty and has no blanks. -/
theorem field_ends {t : LocalTime} (h : IsWritable t) {tok : Token}
    (field : tok.isLiteral = false) :
    tok.format t ≠ [] ∧ ∀ c ∈ tok.format t, Text.isBlank c = false := by
  obtain ⟨length, digits, -⟩ := field_spec h field
  constructor
  · intro nothing
    rw [nothing] at length
    cases tok with
    | literal l => cases field
    | _ => exact absurd length (by decide)
  · intro c hc
    exact Decimal.isBlank_of_isDigit (digits c hc)

theorem isBlank_head_of_field {t : LocalTime} (h : IsWritable t) {tok : Token}
    (field : tok.isLiteral = false) {ts : List Token} {c : Char}
    (first : (formatTokens (tok :: ts) t).head? = some c) : Text.isBlank c = false := by
  obtain ⟨ne, noBlank⟩ := field_ends h field
  rw [formatTokens_cons, List.head?_append_of_ne_nil _ ne] at first
  exact noBlank c (List.mem_of_mem_head? first)

theorem isBlank_last_of_field {t : LocalTime} (h : IsWritable t) {tok : Token}
    (field : tok.isLiteral = false) {ts : List Token} {c : Char}
    (last : (formatTokens (ts ++ [tok]) t).getLast? = some c) : Text.isBlank c = false := by
  obtain ⟨ne, noBlank⟩ := field_ends h field
  rw [formatTokens_concat, List.getLast?_append_of_ne_nil _ ne] at last
  exact noBlank c (List.mem_of_mem_getLast? last)

/-- The text begins with a blank exactly when the pattern does. -/
theorem isBlank_head_format {t : LocalTime} (h : IsWritable t) {ts : List Token}
    (apart : IsChain Token.Apart ts) {c : Char} (first : (formatTokens ts t).head? = some c) :
    Text.isBlank c = ts.head?.any Token.beginsBlank := by
  cases ts with
  | nil => cases first
  | cons tok ts =>
      rcases tok.literal_or_field with ⟨l, rfl⟩ | field
      · cases l with
        | cons d l =>
            have same : d = c := Option.some.inj first
            rw [← same]
            rfl
        | nil =>
            -- what stands behind empty text is a field
            cases ts with
            | nil => cases first
            | cons next ts => exact isBlank_head_of_field h (apart.rel_head? rfl rfl) first
      · rw [isBlank_head_of_field h field first]
        exact (ends_of_field field).1.symm

/-- The text ends with a blank exactly when the pattern does. -/
theorem isBlank_last_format {t : LocalTime} (h : IsWritable t) {ts : List Token}
    (apart : IsChain Token.Apart ts) {c : Char} (last : (formatTokens ts t).getLast? = some c) :
    Text.isBlank c = ts.getLast?.any Token.endsBlank := by
  rcases List.eq_nil_or_concat ts with rfl | ⟨us, tok, rfl⟩
  · cases last
  · rw [List.concat_eq_append] at apart last ⊢
    rw [List.getLast?_concat]
    show _ = tok.endsBlank
    rcases tok.literal_or_field with ⟨l, rfl⟩ | field
    · rw [formatTokens_concat] at last
      have last : (formatTokens us t ++ l).getLast? = some c := last
      by_cases empty : l = []
      · -- what stands in front of empty text is a field
        rw [empty, List.append_nil] at last
        rcases List.eq_nil_or_concat us with rfl | ⟨vs, previous, rfl⟩
        · cases last
        · rw [List.concat_eq_append] at apart last
          have field : previous.isLiteral = false := by
            rw [List.append_assoc] at apart
            rw [Bool.eq_false_iff]
            intro literal
            have both := apart.right_of_append.rel_head? rfl literal
            cases both
          rw [isBlank_last_of_field h field last, empty]
          rfl
      · rw [List.getLast?_append_of_ne_nil _ empty] at last
        show _ = l.getLast?.any Text.isBlank
        rw [last]
        rfl
    · rw [isBlank_last_of_field h field last]
      exact (ends_of_field field).2.symm

/-- **Without a blank end the text is kept.** -/
theorem trimmed_format {t : LocalTime} (h : IsWritable t) {p : DatePattern}
    (apart : IsChain Token.Apart p.tokens) (no : p.hasBlankEnd = false) :
    Text.trimmed (p.format t) = p.format t := by
  unfold hasBlankEnd at no
  rw [Bool.or_eq_false_iff] at no
  have kept : Text.trim (formatTokens p.tokens t) = formatTokens p.tokens t := by
    refine Text.trim_eq_self ?_ ?_
    · intro c first
      rw [isBlank_head_format h apart first]
      exact no.1
    · intro c last
      rw [isBlank_last_format h apart last]
      exact no.2
  unfold Text.trimmed format
  rw [String.toList_ofList, kept]

/-! ## §3. What is read of a trimmed text. -/

/-- Reading a token in front takes a text off the front. -/
theorem exists_readTokens_cons {tok : Token} {ts : List Token} {cs : List Char} {a : Bool}
    {r r' : Reading} (h : readTokens a (tok :: ts) cs r = .ok r') :
    ∃ front rest a' s, cs = front ++ rest ∧ readTokens a' ts rest s = .ok r' ∧
      ∀ l, tok = .literal l → front = l := by
  rcases tok.literal_or_field with ⟨l, rfl⟩ | field
  · rw [readTokens] at h
    split at h
    · rename_i rest found
      refine ⟨l, rest, true, r, stripLiteral?_eq_some found, h, ?_⟩
      intro m same
      exact Token.literal.inj same
    · cases h
  · rw [readTokens_field field] at h
    split at h
    · cases h
    · refine ⟨_, _, false, _, (List.take_append_drop _ cs).symm, h, ?_⟩
      intro l same
      rw [same] at field
      cases field

/-- A text that is read begins with a blank if the pattern does. -/
theorem head_of_readTokens {ts : List Token} {cs : List Char} {a : Bool} {r r' : Reading}
    (h : readTokens a ts cs r = .ok r') (blank : ts.head?.any Token.beginsBlank = true) :
    ∃ c, cs.head? = some c ∧ Text.isBlank c = true := by
  cases ts with
  | nil => cases blank
  | cons tok ts =>
      obtain ⟨front, rest, a', s, rfl, -, matched⟩ := exists_readTokens_cons h
      cases tok with
      | literal l =>
          cases l with
          | nil => cases blank
          | cons c l =>
              rw [matched _ rfl]
              exact ⟨c, rfl, blank⟩
      | _ => cases blank

/-- A text that is read ends with a blank if the pattern does. -/
theorem last_of_readTokens {ts : List Token} {cs : List Char} {a : Bool} {r r' : Reading}
    (h : readTokens a ts cs r = .ok r') (blank : ts.getLast?.any Token.endsBlank = true) :
    ∃ c, cs.getLast? = some c ∧ Text.isBlank c = true := by
  induction ts generalizing cs a r with
  | nil => cases blank
  | cons tok ts ih =>
      obtain ⟨front, rest, a', s, rfl, behind, matched⟩ := exists_readTokens_cons h
      cases ts with
      | nil =>
          -- the last token leaves nothing behind, so the text ends as it does
          have nothing : rest = [] := by
            cases rest with
            | nil => rfl
            | cons c rest => cases behind
          rw [nothing, List.append_nil]
          cases tok with
          | literal l =>
              rw [matched l rfl]
              have blank : l.getLast?.any Text.isBlank = true := blank
              exact (Option.any_eq_true _ _).1 blank
          | _ => cases blank
      | cons next ts =>
          have later : (next :: ts).getLast?.any Token.endsBlank = true := by
            rw [List.getLast?_cons_cons] at blank
            exact blank
          obtain ⟨c, last, hc⟩ := ih behind later
          refine ⟨c, ?_, hc⟩
          rw [List.getLast?_append, last]
          rfl

/-- **With a blank end no trimmed text is read.** -/
theorem exists_parse_trimmed {p : DatePattern} (blank : p.hasBlankEnd = true) (text : String) :
    ∃ e, p.parse (Text.trimmed text) = .error e := by
  cases read : p.parse (Text.trimmed text) with
  | error e => exact ⟨e, rfl⟩
  | ok t =>
      unfold parse at read
      cases taken : readTokens false p.tokens (Text.trimmed text).toList {} with
      | error e =>
          rw [taken] at read
          cases read
      | ok r =>
          unfold Text.trimmed at taken
          rw [String.toList_ofList] at taken
          unfold hasBlankEnd at blank
          -- a trimmed text has a blank at neither end
          rcases Bool.or_eq_true_iff.1 blank with first | last
          · obtain ⟨c, hc, isBlank⟩ := head_of_readTokens taken first
            rw [Text.isBlank_head_trim hc] at isBlank
            exact absurd isBlank (by decide)
          · obtain ⟨c, hc, isBlank⟩ := last_of_readTokens taken last
            rw [Text.isBlank_last_trim hc] at isBlank
            exact absurd isBlank (by decide)

end Recordwise.DatePattern
