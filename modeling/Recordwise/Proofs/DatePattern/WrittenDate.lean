/-
  Recordwise.Proofs.DatePattern.WrittenDate
  ─────────────────────────────────────────
  **What is read can be written as a date, and is read back from it.**

  A year is read from exactly four digits, so that whatever a pattern reads
  lies in the years that four digits write.  The date of such a local time is
  the text that the pattern `yyyy-MM-dd` writes of it, and that pattern reads
  the text as midnight of the same day.  Main statements:

      isWritable_of_parse — what a pattern reads can be written
      format_isoDate      — the text of a date is what `yyyy-MM-dd` writes
      parse_dateText      — and that pattern reads it back
-/
import Recordwise.Proofs.DatePattern.BlankEnds
import Recordwise.Proofs.DatePattern.Segmentation

namespace Recordwise.DatePattern

open Calendar

/-! ## §1. What is read. -/

/-- Digits are less than the power of ten of their length. -/
theorem ofDigitChars_lt {ds : List Char} (digits : ∀ c ∈ ds, Decimal.isDigit c = true) (n : Nat) :
    Nat.ofDigitChars 10 ds n < (n + 1) * Nat.pow 10 ds.length := by
  induction ds generalizing n with
  | nil => exact Nat.lt_of_lt_of_eq (Nat.lt_succ_self n) (Nat.mul_one _).symm
  | cons c ds ih =>
    have digit := (Decimal.isDigit_iff c).1 (digits c List.mem_cons_self)
    calc Nat.ofDigitChars 10 (c :: ds) n
        = Nat.ofDigitChars 10 ds (10 * n + (c.toNat - 48)) := rfl
      _ < (10 * n + (c.toNat - 48) + 1) * Nat.pow 10 ds.length :=
          ih (fun d hd => digits d (List.mem_cons_of_mem c hd)) _
      _ ≤ ((n + 1) * 10) * Nat.pow 10 ds.length := Nat.mul_le_mul_right _ (by omega)
      _ = (n + 1) * (10 * Nat.pow 10 ds.length) := Nat.mul_assoc _ _ _
      _ = (n + 1) * Nat.pow 10 (c :: ds).length :=
          congrArg ((n + 1) * ·) (Nat.mul_comm 10 (Nat.pow 10 ds.length))

/-- The last segment of a field is a segment of it. -/
theorem exists_isSegment_of_lastSegment? {before ts : List Token} {ss : List (List Char)}
    (segments : AreSegments before ts ss) {tok : Token} {s : List Char}
    (last : lastSegment? ts ss tok = some s) : ∃ front behind, IsSegment front behind s tok := by
  induction ts generalizing before ss with
  | nil => cases last
  | cons tok' ts ih =>
    obtain ⟨s', ss, rfl, segment, rest⟩ := exists_cons_of_areSegments segments
    rw [lastSegment?_cons] at last
    cases later : lastSegment? ts ss tok with
    | some u =>
      rw [later, Option.some_or] at last
      exact ih rest (later.trans last)
    | none =>
      rw [later, Option.none_or] at last
      split at last
      · rename_i same
        subst same
        obtain rfl := Option.some.inj last
        exact ⟨before, ts, segment⟩
      · cases last

/-- **What a pattern reads can be written**: clocks show it, and its year has
four digits. -/
theorem isWritable_of_parse {p : DatePattern} {text : String} {t : LocalTime}
    (read : p.parse text = .ok t) : IsWritable t := by
  obtain ⟨ss, ⟨segments, -⟩, year, valid, shown⟩ := exists_isCut_of_parse read
  obtain ⟨s, last⟩ := Option.isSome_iff_exists.1 ((isSome_lastSegment? segments .year).2 year)
  obtain ⟨-, -, length, digits⟩ := exists_isSegment_of_lastSegment? segments last
  -- the year is the number of its last segment, which has four digits
  have number : t.year = (Nat.ofDigitChars 10 s 0 : Nat) := by
    rw [shown]
    show ((numberOf p.tokens ss 0 .year : Nat) : Int) = _
    unfold numberOf
    rw [last]
    rfl
  have bound := ofDigitChars_lt digits 0
  rw [length, show Nat.pow 10 4 = 10000 from rfl] at bound
  rw [← shown] at valid
  exact ⟨valid, by omega, by omega⟩

/-! ## §2. The text of a date. -/

/-- The pattern `yyyy-MM-dd`. -/
def isoDate : DatePattern :=
  ⟨"yyyy-MM-dd", [.year, .literal ['-'], .month, .literal ['-'], .day]⟩

theorem compile_isoDate : compile "yyyy-MM-dd" = .ok isoDate := by decide

/-- **The text of a date** is what `yyyy-MM-dd` writes, in the years of four
digits. -/
theorem format_isoDate {t : LocalTime} (h : IsWritable t) :
    isoDate.format t = String.ofList t.toDate.text := by
  obtain ⟨-, low, high⟩ := h
  have year : yearText t.year = paddedInt 4 t.year := by
    unfold yearText paddedInt
    rw [if_neg (Int.not_lt.2 low), if_neg (Int.not_lt.2 high), if_neg (Int.not_lt.2 low)]
  unfold format Date.text
  rw [year]
  simp [isoDate, formatTokens, Token.format]

/-- **The text of a date is read back**, as midnight of the day. -/
theorem parse_dateText {t : LocalTime} (h : IsWritable t) :
    isoDate.parse (Text.trimmed (String.ofList t.toDate.text)) = .ok ⟨t.toDate, 0, 0, 0⟩ := by
  rw [← format_isoDate h, trimmed_format h (apart_of_compile compile_isoDate) (by decide),
    parse_format_kept (by decide) h]
  rfl

end Recordwise.DatePattern
