/-
  Recordwise.Proofs.DatePattern.Separators
  ────────────────────────────────────────
  **Patterns that no text suits both of.**

  A field takes digits, and so the characters of a text that are no digits are
  those of the literal text between the fields.  Two patterns with other such
  characters have no text in common.  In a pattern without literal text every
  field has all its digits, so that two of these are told apart by the length
  of their texts.  Main statements:

      filter_of_parse — the characters of a text that are no digits
      length_of_parse — the length of a text without literal text
      not_both_parse  — patterns that differ in either have no text in common
-/
import Recordwise.Proofs.DatePattern.Segmentation

namespace Recordwise.DatePattern

open Calendar

/-! ## §1. What sets patterns apart. -/

/-- The literal text of a token. -/
def Token.literalText : Token → List Char
  | .literal l => l
  | _ => []

/-- The characters of a pattern's literal text that are no digits, in order. -/
def separators (p : DatePattern) : List Char :=
  (p.tokens.flatMap Token.literalText).filter fun c => !Decimal.isDigit c

/-- Whether a pattern has no literal text. -/
def isCompact (p : DatePattern) : Bool := p.tokens.all fun tok => !tok.isLiteral

/-- The most characters that tokens read. -/
def width : List Token → Nat
  | [] => 0
  | tok :: ts => tok.width + width ts

/-- Whether the separators, or the widths where there are none, tell patterns
apart. -/
def differs (p q : DatePattern) : Bool :=
  p.separators != q.separators || (p.isCompact && q.isCompact && width p.tokens != width q.tokens)

/-! ## §2. Segments. -/

theorem filter_segment {before after : List Token} {s : List Char} {tok : Token}
    (segment : IsSegment before after s tok) :
    s.filter (fun c => !Decimal.isDigit c)
      = tok.literalText.filter fun c => !Decimal.isDigit c := by
  rcases tok.literal_or_field with ⟨l, rfl⟩ | field
  · have own : s = l := segment
    rw [own]
    rfl
  · have digits := ((isSegment_iff field before after s).1 segment).2
    have none : tok.literalText = [] := by
      cases tok with
      | literal l => cases field
      | _ => rfl
    rw [none, List.filter_nil, List.filter_eq_nil_iff]
    intro c hc
    rw [digits c hc]
    decide

/-- What is no digit in segments is literal text. -/
theorem filter_flatten_of_areSegments {before ts : List Token} {ss : List (List Char)}
    (segments : AreSegments before ts ss) :
    ss.flatten.filter (fun c => !Decimal.isDigit c)
      = (ts.flatMap Token.literalText).filter fun c => !Decimal.isDigit c := by
  induction ts generalizing before ss with
  | nil =>
    rw [eq_nil_of_areSegments segments]
    rfl
  | cons tok ts ih =>
    obtain ⟨s, ss, rfl, segment, rest⟩ := exists_cons_of_areSegments segments
    rw [List.flatten_cons, List.flatMap_cons, List.filter_append, List.filter_append,
      filter_segment segment, ih rest]

/-- Without literal text no field is short. -/
theorem length_flatten_of_areSegments {before ts : List Token} {ss : List (List Char)}
    (segments : AreSegments before ts ss) (inner : endsLiteral before = false)
    (compact : ∀ tok ∈ ts, tok.isLiteral = false) :
    ss.flatten.length = width ts := by
  induction ts generalizing before ss with
  | nil =>
    rw [eq_nil_of_areSegments segments]
    rfl
  | cons tok ts ih =>
    obtain ⟨s, ss, rfl, segment, rest⟩ := exists_cons_of_areSegments segments
    obtain ⟨field, compact⟩ := List.forall_mem_cons.1 compact
    -- literal text neither precedes nor follows, so that the field is not set off
    have plain : isDelimited (endsLiteral before) ts = false := by
      cases ts with
      | nil => exact inner
      | cons next ts => exact (List.forall_mem_cons.1 compact).1
    have least : leastDigits tok (endsLiteral before) ts = tok.width := by
      unfold leastDigits
      rw [plain, Bool.and_false, if_neg Bool.false_ne_true]
    obtain ⟨⟨low, high⟩, -⟩ := (isSegment_iff field before ts s).1 segment
    rw [least] at low
    rw [List.flatten_cons, List.length_append, ih rest (by rw [endsLiteral_concat, field]) compact,
      Nat.le_antisymm high low]
    rfl

/-! ## §3. Texts. -/

section Texts

variable {p q : DatePattern} {text : String} {t u : LocalTime}

/-- **What is no digit in a text that is read** are the separators. -/
theorem filter_of_parse (read : p.parse text = .ok t) :
    text.toList.filter (fun c => !Decimal.isDigit c) = p.separators := by
  obtain ⟨ss, ⟨segments, flat⟩, -⟩ := exists_isCut_of_parse read
  rw [← flat]
  exact filter_flatten_of_areSegments segments

/-- **A text that is read without literal text** has the width of the tokens. -/
theorem length_of_parse (read : p.parse text = .ok t) (compact : p.isCompact = true) :
    text.toList.length = width p.tokens := by
  obtain ⟨ss, ⟨segments, flat⟩, -⟩ := exists_isCut_of_parse read
  rw [← flat]
  refine length_flatten_of_areSegments segments rfl fun tok listed => ?_
  simpa using List.all_eq_true.1 compact tok listed

/-- **Patterns that differ have no text in common.** -/
theorem not_both_parse (differ : p.differs q = true) (first : p.parse text = .ok t)
    (second : q.parse text = .ok u) : False := by
  unfold differs at differ
  rcases Bool.or_eq_true_iff.1 differ with separate | wide
  · rw [bne_iff_ne] at separate
    exact separate ((filter_of_parse first).symm.trans (filter_of_parse second))
  · rw [Bool.and_eq_true, Bool.and_eq_true, bne_iff_ne] at wide
    obtain ⟨⟨compact, compact'⟩, wide⟩ := wide
    exact wide ((length_of_parse first compact).symm.trans (length_of_parse second compact'))

end Texts

end Recordwise.DatePattern
