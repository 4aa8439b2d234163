/-
  Recordwise.Proofs.DatePattern.RoundTrip
  ───────────────────────────────────────
  **A local time is read back from its text.**

  Every field is written with as many digits as it can take, so that reading
  takes exactly the digits that were written, whatever stands behind them;
  literal text is matched as it was written.  What is read are the fields that
  the pattern has, and their defaults for those it lacks.  Main statements:

      field_spec              — the digits of a field and their value
      readTokens_formatTokens — the tokens are read one by one
      parse_format            — the fields that a pattern keeps
      parse_format_kept       — with a year they make a local time, whatever
                                fields the pattern lacks
      parse_format_complete   — a pattern with all fields keeps the local time
-/
import Recordwise.DatePattern.Reading
import Recordwise.DatePattern.Writing
import Recordwise.Proofs.Calendar.Numbering

namespace Recordwise.DatePattern

open Calendar

/-! ## §1. Padded numbers. -/

theorem length_padded {width n : Nat} (h : (Nat.toDigits 10 n).length ≤ width) :
    (padded width n).length = width := by
  unfold padded
  rw [List.length_append, List.length_replicate]
  omega

theorem isDigit_of_mem_padded {width n : Nat} {c : Char} (h : c ∈ padded width n) :
    Decimal.isDigit c = true := by
  unfold padded at h
  rcases List.mem_append.1 h with zeros | digits
  · rw [List.eq_of_mem_replicate zeros]
    rfl
  · exact Decimal.isDigit_of_mem_natText digits

/-- Zeros in front do not count. -/
theorem natOfDigits_padded (width n : Nat) : Decimal.natOfDigits (padded width n) = n := by
  unfold padded
  rw [Decimal.natOfDigits_eq, Nat.ofDigitChars_append, Nat.ofDigitChars_replicate_zero,
    Nat.mul_zero, Nat.ofDigitChars_ten_toDigits]

theorem length_toDigits_le_two {n : Nat} (h : n < 100) : (Nat.toDigits 10 n).length ≤ 2 :=
  (Nat.length_toDigits_le_iff (by decide) (by decide)).2 h

theorem length_toDigits_le_four {n : Nat} (h : n < 10000) : (Nat.toDigits 10 n).length ≤ 4 :=
  (Nat.length_toDigits_le_iff (by decide) (by decide)).2 h

/-! ## §2. The text of a field. -/

/-- Whether a local time is one that clocks show in the years that four digits
write. -/
def IsWritable (t : LocalTime) : Prop := t.isValid = true ∧ 0 ≤ t.year ∧ t.year ≤ 9999

/-- The number of a field of a local time. -/
def Token.value (t : LocalTime) : Token → Nat
  | .year => t.year.toNat
  | .month => t.month
  | .day => t.day
  | .hour => t.hour
  | .minute => t.minute
  | .second => t.second
  | .literal _ => 0

/-- The fields of a local time that clocks show have two digits at most. -/
theorem field_lt {t : LocalTime} (h : t.isValid = true) :
    t.month < 100 ∧ t.day < 100 ∧ t.hour < 100 ∧ t.minute < 100 ∧ t.second < 100 := by
  rw [LocalTime.isValid_iff_parts, Date.isValid_iff_bounds, LocalTime.isClockTime_iff] at h
  obtain ⟨⟨-, last, -, day⟩, hour, minute, second⟩ := h
  have inMonth := daysInMonth_le t.year last
  omega

/-- **The text of a field**: as many digits as it takes, and their value. -/
theorem field_spec {t : LocalTime} (h : IsWritable t) {tok : Token}
    (field : tok.isLiteral = false) :
    (tok.format t).length = tok.width ∧ (∀ c ∈ tok.format t, Decimal.isDigit c = true) ∧
      Decimal.natOfDigits (tok.format t) = tok.value t := by
  obtain ⟨valid, low, high⟩ := h
  obtain ⟨month, day, hour, minute, second⟩ := field_lt valid
  have two {n : Nat} (bound : n < 100) : (padded 2 n).length = 2 ∧
      (∀ c ∈ padded 2 n, Decimal.isDigit c = true) ∧ Decimal.natOfDigits (padded 2 n) = n :=
    ⟨length_padded (length_toDigits_le_two bound), fun c hc => isDigit_of_mem_padded hc,
      natOfDigits_padded 2 n⟩
  cases tok with
  | year =>
      -- the year is not negative, so no place goes to a sign
      have written : Token.format t .year = padded 4 t.year.toNat := by
        show paddedInt 4 t.year = _
        unfold paddedInt
        rw [if_neg (Int.not_lt.2 low)]
        congr 1
        omega
      have digits := length_toDigits_le_four (show t.year.toNat < 10000 by omega)
      rw [written]
      exact ⟨length_padded digits, fun c hc => isDigit_of_mem_padded hc, natOfDigits_padded 4 _⟩
  | month => exact two month
  | day => exact two day
  | hour => exact two hour
  | minute => exact two minute
  | second => exact two second
  | literal cs => cases field

/-! ## §3. Reading what was written. -/

/-- A run of digits as long as a field takes is what the field takes. -/
theorem leadingDigits_append {most : Nat} {ds : List Char} (length : ds.length = most)
    (digits : ∀ c ∈ ds, Decimal.isDigit c = true) (rest : List Char) :
    leadingDigits most (ds ++ rest) = ds := by
  unfold leadingDigits
  rw [← length, List.take_left]
  have all : (ds ++ []).takeWhile Decimal.isDigit = ds ++ [].takeWhile Decimal.isDigit :=
    List.takeWhile_append_of_pos digits
  rw [List.append_nil, List.takeWhile_nil, List.append_nil] at all
  exact all

theorem leastDigits_le {tok : Token} (field : tok.isLiteral = false) (afterLiteral : Bool)
    (ts : List Token) : leastDigits tok afterLiteral ts ≤ tok.width := by
  have one : 1 ≤ tok.width := by
    cases tok with
    | literal cs => cases field
    | _ => decide
  unfold leastDigits
  split
  · exact one
  · exact Nat.le_refl _

/-- How a field is read. -/
theorem readTokens_field {tok : Token} (field : tok.isLiteral = false) (afterLiteral : Bool)
    (ts : List Token) (cs : List Char) (r : Reading) :
    readTokens afterLiteral (tok :: ts) cs r =
      if (leadingDigits tok.width cs).length < leastDigits tok afterLiteral ts then
        .error (.expectedDigits (leastDigits tok afterLiteral ts) cs)
      else readTokens false ts (cs.drop (leadingDigits tok.width cs).length)
        (r.set (Decimal.natOfDigits (leadingDigits tok.width cs)) tok) := by
  cases tok with
  | literal l => cases field
  | _ => rfl

/-- **Tokens are read one by one**, each taking what was written for it. -/
theorem readTokens_formatTokens {t : LocalTime} (h : IsWritable t) (ts : List Token)
    (afterLiteral : Bool) (r : Reading) :
    readTokens afterLiteral ts (formatTokens ts t) r =
      .ok (ts.foldl (fun r tok => r.set (tok.value t) tok) r) := by
  induction ts generalizing afterLiteral r with
  | nil => rfl
  | cons tok ts ih =>
      have written : formatTokens (tok :: ts) t = tok.format t ++ formatTokens ts t := by
        unfold formatTokens
        rw [List.flatMap_cons]
      rw [written, List.foldl_cons]
      rcases tok.literal_or_field with ⟨l, rfl⟩ | field
      · show readTokens afterLiteral (.literal l :: ts) (l ++ formatTokens ts t) r = _
        rw [readTokens_literal]
        exact ih true r
      · -- a field takes as many digits as it was written with, which are all its digits
        obtain ⟨length, digits, value⟩ := field_spec h field
        have taken := leadingDigits_append length digits (formatTokens ts t)
        have least := leastDigits_le field afterLiteral ts
        rw [readTokens_field field, taken, if_neg (by omega), value, List.drop_left]
        exact ih false _

/-! ## §4. What a pattern keeps. -/

/-- The fields that tokens keep of a local time. -/
def keep (ts : List Token) (t : LocalTime) (r : Reading) : Reading where
  year? := if .year ∈ ts then some t.year.toNat else r.year?
  month := if .month ∈ ts then t.month else r.month
  day := if .day ∈ ts then t.day else r.day
  hour := if .hour ∈ ts then t.hour else r.hour
  minute := if .minute ∈ ts then t.minute else r.minute
  second := if .second ∈ ts then t.second else r.second

theorem foldl_set (ts : List Token) (t : LocalTime) (r : Reading) :
    ts.foldl (fun r tok => r.set (tok.value t) tok) r = keep ts t r := by
  induction ts generalizing r with
  | nil => rfl
  | cons tok ts ih =>
      rw [List.foldl_cons, ih]
      cases tok <;> simp [keep, Reading.set, Token.value]

/-- **What is read back are the fields that the pattern has.** -/
theorem parse_format {t : LocalTime} (h : IsWritable t) (p : DatePattern) :
    p.parse (p.format t) = (keep p.tokens t {}).finish := by
  unfold parse format
  rw [String.toList_ofList, readTokens_formatTokens h, foldl_set]
  rfl

/-- The local time of the fields that tokens keep of another; the fields that
they lack have their defaults. -/
def kept (ts : List Token) (t : LocalTime) : LocalTime where
  year := t.year
  month := if .month ∈ ts then t.month else 1
  day := if .day ∈ ts then t.day else 1
  hour := if .hour ∈ ts then t.hour else 0
  minute := if .minute ∈ ts then t.minute else 0
  second := if .second ∈ ts then t.second else 0

/-- The day that is kept is one of the calendar: a day whose month is not kept
becomes a day of January, which is as long as any month. -/
theorem isValid_date_kept (ts : List Token) {t : LocalTime} (h : t.toDate.isValid = true) :
    (kept ts t).toDate.isValid = true := by
  show Date.isValid ⟨t.year, if .month ∈ ts then t.month else 1,
    if .day ∈ ts then t.day else 1⟩ = true
  rw [Date.isValid_iff_bounds] at h ⊢
  dsimp only
  obtain ⟨first, last, low, high⟩ := h
  by_cases month : Token.month ∈ ts
  · rw [if_pos month]
    by_cases day : Token.day ∈ ts
    · rw [if_pos day]
      exact ⟨first, last, low, high⟩
    · rw [if_neg day]
      exact ⟨first, last, Nat.le_refl _, one_le_daysInMonth t.year first last⟩
  · have january : daysInMonth t.year 1 = 31 := rfl
    rw [if_neg month, january]
    by_cases day : Token.day ∈ ts
    · rw [if_pos day]
      exact ⟨Nat.le_refl _, by omega, low, Nat.le_trans high (daysInMonth_le t.year last)⟩
    · rw [if_neg day]
      exact ⟨Nat.le_refl _, by omega, Nat.le_refl _, by omega⟩

/-- The time of day that is kept is one that clocks show. -/
theorem isClockTime_kept (ts : List Token) {t : LocalTime}
    (h : LocalTime.isClockTime t.hour t.minute t.second = true) :
    LocalTime.isClockTime (kept ts t).hour (kept ts t).minute (kept ts t).second = true := by
  have below {n most : Nat} (bound : n < most) (field : Token) :
      (if field ∈ ts then n else 0) < most := by
    split
    · exact bound
    · omega
  rw [LocalTime.isClockTime_iff] at h ⊢
  exact ⟨below h.1 .hour, below h.2.1 .minute, below h.2.2 .second⟩

/-- **The fields that are kept are those of a local time.** -/
theorem isValid_kept (ts : List Token) {t : LocalTime} (h : t.isValid = true) :
    (kept ts t).isValid = true := by
  rw [LocalTime.isValid_iff_parts] at h ⊢
  exact ⟨isValid_date_kept ts h.1, isClockTime_kept ts h.2⟩

/-- The checks of the reader are those of a local time. -/
theorem finish_keep {ts : List Token} (year : .year ∈ ts) {t : LocalTime} (h : IsWritable t) :
    (keep ts t {}).finish = .ok (kept ts t) := by
  obtain ⟨valid, low, -⟩ := h
  have same : ((t.year.toNat : Nat) : Int) = t.year := Int.toNat_of_nonneg low
  obtain ⟨date, clock⟩ := LocalTime.isValid_iff_parts.1 (isValid_kept ts valid)
  obtain ⟨first, last, -⟩ := Date.isValid_iff_bounds.1 date
  have given : (keep ts t {}).year? = some t.year.toNat := if_pos year
  unfold Reading.finish
  rw [given]
  show (if (kept ts t).month < 1 ∨ 12 < (kept ts t).month then _
    else if !Date.isValid ⟨(t.year.toNat : Nat), (kept ts t).month, (kept ts t).day⟩ then _
    else if !LocalTime.isClockTime (kept ts t).hour (kept ts t).minute (kept ts t).second then _
    else Except.ok (⟨⟨(t.year.toNat : Nat), (kept ts t).month, (kept ts t).day⟩,
      (kept ts t).hour, (kept ts t).minute, (kept ts t).second⟩ : LocalTime)) = _
  rw [if_neg (by omega), same]
  have date : Date.isValid ⟨t.year, (kept ts t).month, (kept ts t).day⟩ = true := date
  rw [date, clock]
  rfl

/-- **A pattern with a year keeps the fields that it has**, and the others
have their defaults. -/
theorem parse_format_kept {p : DatePattern} (year : .year ∈ p.tokens) {t : LocalTime}
    (h : IsWritable t) : p.parse (p.format t) = .ok (kept p.tokens t) := by
  rw [parse_format h]
  exact finish_keep year h

/-- Without its month the last day of a February is one of January. -/
theorem parse_format_kept_leapDay :
    Token.year ∈ [Token.day, .literal ['0'], .year, .day, .second] ∧
      IsWritable ⟨⟨2024, 2, 29⟩, 23, 59, 58⟩ ∧
      compile "dd'0'yyyyddss" =
        .ok ⟨"dd'0'yyyyddss", [.day, .literal ['0'], .year, .day, .second]⟩ ∧
      parse ⟨"dd'0'yyyyddss", [.day, .literal ['0'], .year, .day, .second]⟩
          (format ⟨"dd'0'yyyyddss", [.day, .literal ['0'], .year, .day, .second]⟩
            ⟨⟨2024, 2, 29⟩, 23, 59, 58⟩) =
        .ok ⟨⟨2024, 1, 29⟩, 0, 0, 58⟩ := by
  have year : Token.year ∈ [Token.day, .literal ['0'], .year, .day, .second] := by decide
  have writable : IsWritable ⟨⟨2024, 2, 29⟩, 23, 59, 58⟩ := ⟨by decide, by decide, by decide⟩
  refine ⟨year, writable, rfl, ?_⟩
  rw [parse_format_kept year writable]
  rfl

/-- Whether a pattern has all six fields. -/
def IsComplete (p : DatePattern) : Prop :=
  ∀ tok ∈ [Token.year, .month, .day, .hour, .minute, .second], tok ∈ p.tokens

/-- **A pattern with all fields keeps the local time.** -/
theorem parse_format_complete {t : LocalTime} (h : IsWritable t) {p : DatePattern}
    (complete : p.IsComplete) : p.parse (p.format t) = .ok t := by
  have all : kept p.tokens t = t := by
    unfold kept
    rw [if_pos (complete .month (by decide)), if_pos (complete .day (by decide)),
      if_pos (complete .hour (by decide)), if_pos (complete .minute (by decide)),
      if_pos (complete .second (by decide))]
  rw [parse_format h, finish_keep (complete .year (by decide)) h, all]

end Recordwise.DatePattern
