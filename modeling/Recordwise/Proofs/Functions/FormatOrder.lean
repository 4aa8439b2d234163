/-
  Recordwise.Proofs.Functions.FormatOrder
  ───────────────────────────────────────
  **The order in which formats are tried.**

  A text is read by the first format of a context that reads it.  Where no
  text is read by two of the formats there is nothing to choose, and the order
  of the formats does not matter.  The default formats are of this kind: their
  separators differ, and the two without separators have texts of eight and of
  fourteen digits.  Main statements:

      readDefault?_eq_some_iff   — of formats that differ, any one reads a text
      readDefault_eq_of_perm     — contexts with the same formats in another
                                   order
      formatsDiffer_ofZone       — the default formats differ
      readDefault_defaultFormats — so that their order does not matter
-/
import Recordwise.Evaluation.Context
import Recordwise.Functions.Temporal
import Recordwise.Proofs.DatePattern.Separators
import Recordwise.Proofs.Failure.EveryMember

namespace Recordwise.Functions

open Calendar

/-! ## §1. Formats that differ. -/

/-- Whether any two of some formats are told apart by their texts. -/
def FormatsDiffer (formats : List DatePattern) : Prop :=
  ∀ p ∈ formats, ∀ q ∈ formats, p = q ∨ p.differs q = true

/-- No text is read by two formats that differ. -/
theorem FormatsDiffer.eq_of_parse {formats : List DatePattern} (differ : FormatsDiffer formats)
    {p q : DatePattern} (hp : p ∈ formats) (hq : q ∈ formats) {text : String} {t u : LocalTime}
    (first : p.parse text = .ok t) (second : q.parse text = .ok u) : p = q := by
  rcases differ p hp q hq with same | apart
  · exact same
  · exact (DatePattern.not_both_parse apart first second).elim

section Order

variable {ctx ctx' : Context} {text : String} {t : LocalTime}

/-- A text is read if any format reads it. -/
theorem exists_readDefault?_iff : (∃ t, readDefault? ctx text = some t) ↔
    ∃ p ∈ ctx.formats, ∃ t, p.parse (Text.trimmed text) = .ok t := by
  constructor
  · rintro ⟨t, read⟩
    obtain ⟨p, listed, parsed⟩ := exists_parse_of_readDefault? read
    exact ⟨p, listed, t, parsed⟩
  · rintro ⟨p, listed, t, parsed⟩
    unfold readDefault?
    rw [← Option.isSome_iff_exists, List.findSome?_isSome_iff]
    exact ⟨p, listed, by rw [parsed]; rfl⟩

/-- Of formats that differ, a text is read by any one that reads it. -/
theorem readDefault?_eq_some_iff (differ : FormatsDiffer ctx.formats) :
    readDefault? ctx text = some t ↔ ∃ p ∈ ctx.formats, p.parse (Text.trimmed text) = .ok t := by
  refine ⟨exists_parse_of_readDefault?, ?_⟩
  rintro ⟨p, listed, parsed⟩
  -- some format reads the text, and this is the only one
  obtain ⟨u, read⟩ := exists_readDefault?_iff.2 ⟨p, listed, t, parsed⟩
  obtain ⟨q, listed', parsed'⟩ := exists_parse_of_readDefault? read
  obtain rfl := differ.eq_of_parse listed listed' parsed parsed'
  rw [read, Except.ok.inj (parsed'.symm.trans parsed)]

/-- **Contexts with the same formats in another order** read alike. -/
theorem readDefault_eq_of_perm (perm : ctx.formats.Perm ctx'.formats)
    (differ : FormatsDiffer ctx.formats) (function text : String) :
    readDefault function ctx text = readDefault function ctx' text := by
  have differ' : FormatsDiffer ctx'.formats := fun p hp q hq =>
    differ p (perm.mem_iff.2 hp) q (perm.mem_iff.2 hq)
  have same : readDefault? ctx text = readDefault? ctx' text := by
    ext t
    rw [readDefault?_eq_some_iff differ, readDefault?_eq_some_iff differ']
    simp only [perm.mem_iff]
  unfold readDefault
  rw [same]

end Order

/-! ## §2. The default formats. -/

/-- **The default formats differ**: in their separators, or without any in their
width. -/
theorem formatsDiffer_ofZone (zone : Zone) : FormatsDiffer (Context.ofZone zone).formats := by
  have all : ((Context.ofZone zone).formats.all fun p =>
      (Context.ofZone zone).formats.all fun q => p == q || p.differs q) = true := rfl
  intro p hp q hq
  have pair := List.all_eq_true.1 (List.all_eq_true.1 all p hp) q hq
  rw [Bool.or_eq_true, beq_iff_eq] at pair
  exact pair

theorem mapM_defaultFormats (zone : Zone) :
    defaultFormats.mapM Context.formatPattern = .ok (Context.ofZone zone).formats := rfl

/-- The default formats make a context in any order. -/
theorem exists_withFormats_of_perm (zone : Zone) {formats : List String}
    (perm : formats.Perm defaultFormats) :
    ∃ ctx, Context.withFormats zone formats = .ok ctx ∧
      ctx.formats.Perm (Context.ofZone zone).formats := by
  have some_format : formats.isEmpty = false := by
    rw [List.isEmpty_eq_false_iff]
    rintro rfl
    exact absurd perm.length_eq (by decide)
  rcases mapM_cases_of_perm perm Context.formatPattern with
    ⟨ps, qs, compiled, others, same⟩ | ⟨-, e, refused⟩
  · rw [mapM_defaultFormats zone] at others
    obtain rfl := Except.ok.inj others
    refine ⟨⟨zone, ps⟩, ?_, same⟩
    unfold Context.withFormats
    rw [some_format, compiled]
    rfl
  · rw [mapM_defaultFormats zone] at refused
    cases refused

/-- **The order of the default formats does not matter**: no text is read by
two of them, and so contexts that have them in any order read alike. -/
theorem readDefault_defaultFormats (zone : Zone) :
    (∀ f ∈ defaultFormats, ∀ g ∈ defaultFormats, ∀ (p q : DatePattern) (text : String)
        (t u : LocalTime), DatePattern.compile f = .ok p → DatePattern.compile g = .ok q →
        p.parse text = .ok t → q.parse text = .ok u → f = g) ∧
      ∀ formats : List String, formats.Perm defaultFormats →
        ∃ ctx, Context.withFormats zone formats = .ok ctx ∧
          ∀ function text, readDefault function ctx text
            = readDefault function (Context.ofZone zone) text := by
  constructor
  · intro f hf g hg p q text t u compiled compiled' read read'
    -- what the default formats compile to are the formats of the context
    have listed {f : String} {p : DatePattern} (hf : f ∈ defaultFormats)
        (compiled : DatePattern.compile f = .ok p) : p ∈ (Context.ofZone zone).formats :=
      List.mem_filterMap.2 ⟨f, hf, by rw [compiled]; rfl⟩
    obtain rfl := (formatsDiffer_ofZone zone).eq_of_parse (listed hf compiled)
      (listed hg compiled') read read'
    rw [← DatePattern.source_of_compile compiled, DatePattern.source_of_compile compiled']
  · intro formats perm
    obtain ⟨ctx, made, same⟩ := exists_withFormats_of_perm zone perm
    refine ⟨ctx, made, fun function text => ?_⟩
    exact (readDefault_eq_of_perm same.symm (formatsDiffer_ofZone zone) function text).symm

/-- Eight digits are a day, in the reverse order too, and never one with a time. -/
theorem readDefault_defaultFormats_reverse :
    ("yyyyMMdd" ∈ defaultFormats ∧
        DatePattern.compile "yyyyMMdd" = .ok ⟨"yyyyMMdd", [.year, .month, .day]⟩ ∧
        DatePattern.parse ⟨"yyyyMMdd", [.year, .month, .day]⟩ "20240229"
          = .ok ⟨⟨2024, 2, 29⟩, 0, 0, 0⟩) ∧
      (∀ u, DatePattern.parse
        ⟨"yyyyMMddHHmmss", [.year, .month, .day, .hour, .minute, .second]⟩ "20240229" ≠ .ok u) ∧
      defaultFormats.reverse.Perm defaultFormats ∧
      ∃ ctx, Context.withFormats Zone.utc defaultFormats.reverse = .ok ctx ∧
        readDefault "year" ctx " 20240229" = .ok ⟨⟨2024, 2, 29⟩, 0, 0, 0⟩ := by
  have perm := List.reverse_perm defaultFormats
  have listed : "yyyyMMdd" ∈ defaultFormats := by decide
  have compiled : DatePattern.compile "yyyyMMdd" = .ok ⟨"yyyyMMdd", [.year, .month, .day]⟩ := by
    decide
  have read : DatePattern.parse ⟨"yyyyMMdd", [.year, .month, .day]⟩ "20240229"
      = .ok ⟨⟨2024, 2, 29⟩, 0, 0, 0⟩ := by rfl
  obtain ⟨once, order⟩ := readDefault_defaultFormats Zone.utc
  obtain ⟨ctx, made, same⟩ := order _ perm
  refine ⟨⟨listed, compiled, read⟩, fun u other => ?_, perm, ctx, made, ?_⟩
  · have clash := once _ listed "yyyyMMddHHmmss" (by decide) _ _ _ _ _ compiled (by decide) read
      other
    exact absurd clash (by decide)
  · rw [same]
    rfl

end Recordwise.Functions
