/-
  Recordwise.Proofs.Functions.DateNormalization
  ─────────────────────────────────────────────
  **The date that `to_date` writes stands for the text that it read.**

  With the default formats `yyyy-MM-dd` is tried first, and it reads back
  every date that `to_date` writes, whatever the text was read by.  So
  `to_date` leaves its own results alone, and the parts of the date are the
  same on the result as on the text.  Main statements:

      isWritable_of_readDefault — what the formats of a context read
      readDefault_dateText      — the default formats read a date back
      toDate_eq_ok_iff          — what `to_date` writes
      to_date_normalizes        — `to_date` and the parts of a date, on its
                                  results
-/
import Recordwise.Builtin
import Recordwise.Proofs.DatePattern.WrittenDate
import Recordwise.Proofs.Evaluation.Running

namespace Recordwise.Functions

open Calendar
open DatePattern (Cache IsWritable isoDate)

/-! ## §1. Reading. -/

section Reading

variable {function text : String} {ctx : Context} {t : LocalTime}

/-- What the formats of a context read can be written. -/
theorem isWritable_of_readDefault (read : readDefault function ctx text = .ok t) :
    IsWritable t := by
  obtain ⟨p, -, parsed⟩ := exists_parse_of_readDefault? (readDefault_eq_ok_iff.1 read)
  exact DatePattern.isWritable_of_parse parsed

/-- What a pattern reads can be written. -/
theorem isWritable_of_readWith {p : DatePattern} (read : readWith function p text = .ok t) :
    IsWritable t := by
  unfold readWith at read
  dsimp only at read
  split at read
  · rename_i parsed
    obtain rfl := Except.ok.inj read
    exact DatePattern.isWritable_of_parse parsed
  · cases read

/-- What is read by the text of a pattern can be written. -/
theorem isWritable_of_readBy {source : String} {cache : Cache}
    (read : ((readBy function source text).runWith cache).1 = .ok t) : IsWritable t := by
  obtain ⟨p, next, -, given⟩ := Eval.exists_of_runWith_bind_eq_ok read
  exact isWritable_of_readWith ((Eval.fst_runWith_ofExcept_eq_ok_iff _ _ _).1 given)

/-- **The default formats read a date back**, as midnight of the day. -/
theorem readDefault_dateText (function : String) (zone : Zone) (h : IsWritable t) :
    readDefault function (Context.ofZone zone) (String.ofList t.toDate.text)
      = .ok ⟨t.toDate, 0, 0, 0⟩ := by
  obtain ⟨others, first⟩ : ∃ others, (Context.ofZone zone).formats = isoDate :: others :=
    ⟨_, rfl⟩
  rw [readDefault_eq_ok_iff]
  unfold readDefault?
  rw [first, List.findSome?_cons, DatePattern.parse_dateText h]
  rfl

end Reading

/-! ## §2. What is written. -/

variable {ctx : Context} {v w : Value} {s : String}

theorem toDate_of_text? {text : String} (given : v.text? = some text) :
    toDate ctx [v] = (readDefault "to_date" ctx text).map dateValue := by
  unfold toDate
  rw [textArg_head, given]
  show (readDefault "to_date" ctx text >>= fun t => pure (dateValue t)) = _
  cases readDefault "to_date" ctx text <;> rfl

/-- **What `to_date` writes**: the date of what the formats read. -/
theorem toDate_eq_ok_iff : toDate ctx [v] = .ok (.text s) ↔
    ∃ text t, v.text? = some text ∧ readDefault "to_date" ctx text = .ok t ∧
      s = String.ofList t.toDate.text := by
  constructor
  · intro written
    cases given : v.text? with
    | none =>
      -- null is handed on, which is no text
      obtain rfl := Value.text?_eq_none_iff.1 given
      cases written
    | some text =>
      rw [toDate_of_text? given] at written
      obtain ⟨t, read, date⟩ := DatePattern.map_eq_ok written
      exact ⟨text, t, rfl, read, (Value.text.inj date).symm⟩
  · rintro ⟨text, t, given, read, rfl⟩
    rw [toDate_of_text? given, read]
    rfl

/-- What `to_date` writes by a pattern. -/
theorem exists_of_toDateBy_eq_ok {cache : Cache}
    (written : ((toDateBy [v, w]).runWith cache).1 = .ok (.text s)) :
    ∃ t, IsWritable t ∧ s = String.ofList t.toDate.text := by
  unfold toDateBy at written
  obtain ⟨text?, -, written⟩ := (Eval.fst_runWith_ofExcept_bind_eq_ok_iff _ _ _ _).1 written
  cases text? with
  | none => cases written
  | some text =>
    obtain ⟨source, -, written⟩ := (Eval.fst_runWith_ofExcept_bind_eq_ok_iff _ _ _ _).1 written
    obtain ⟨t, next, read, date⟩ := Eval.exists_of_runWith_bind_eq_ok written
    have given : ((readBy "to_date" source text).runWith cache).1 = .ok t := by rw [read]
    exact ⟨t, isWritable_of_readBy given, (Value.text.inj (Except.ok.inj date)).symm⟩

/-- A part that is read off the date alone. -/
def DatePart.IsOfDate (part : DatePart) : Prop := part ∉ [.hour, .minute, .second]

theorem DatePart.IsOfDate.read_eq {part : DatePart} (h : part.IsOfDate) (t : LocalTime) :
    part.read ⟨t.toDate, 0, 0, 0⟩ = part.read t := by
  cases part with
  | hour | minute | second => exact absurd (by decide) h
  | _ => rfl

theorem datePart_of_read {text : String} {t : LocalTime} (part : DatePart)
    (given : v.text? = some text)
    (read : readDefault part.function ctx text = .ok t) :
    datePart part ctx [v] = .ok (.integer (Int64.ofInt (part.read t))) := by
  unfold datePart
  rw [textArg_head, given]
  show (readDefault part.function ctx text >>= fun t =>
    pure (Value.integer (Int64.ofInt (part.read t)))) = _
  rw [read]
  rfl

end Recordwise.Functions

namespace Recordwise.Builtin

open Calendar
open DatePattern (Cache IsWritable)
open Functions (DatePart)

/-! ## §3. Calls. -/

theorem call_to_date (ctx : Context) (v : Value) :
    call ctx "to_date" [v] = Eval.ofExcept (Functions.toDate ctx [v]) :=
  call_of_check (b := .toDate) (by show check "to_date" 1 = _; decide) ctx

theorem call_to_date_by (ctx : Context) (v w : Value) :
    call ctx "to_date" [v, w] = Functions.toDateBy [v, w] :=
  call_of_check (b := .toDateBy) (by show check "to_date" 2 = _; decide) ctx

theorem call_part (ctx : Context) (part : DatePart) (v : Value) :
    call ctx part.function [v] = Eval.ofExcept (Functions.datePart part ctx [v]) :=
  call_of_check (b := .part part) (by show check part.function 1 = _; cases part <;> decide) ctx

/-- **`to_date` leaves its results alone**, whether they were read by the
default formats or by a pattern, and the parts of the date are the same on a
result of the default formats as on what it was read from. -/
theorem to_date_normalizes (zone : Zone) (v : Value) (s : String) :
    (call (Context.ofZone zone) "to_date" [v] = pure (.text s) →
      call (Context.ofZone zone) "to_date" [.text s] = pure (.text s) ∧
        ∀ part : DatePart, part.IsOfDate →
          call (Context.ofZone zone) part.function [.text s]
            = call (Context.ofZone zone) part.function [v]) ∧
    ∀ (w : Value) (cache : Cache),
      ((call (Context.ofZone zone) "to_date" [v, w]).runWith cache).1 = .ok (.text s) →
        call (Context.ofZone zone) "to_date" [.text s] = pure (.text s) := by
  -- every result is the date of something that can be written
  have own {t : LocalTime} (writable : IsWritable t) (same : s = String.ofList t.toDate.text) :
      call (Context.ofZone zone) "to_date" [.text s] = pure (.text s) := by
    rw [call_to_date, Eval.ofExcept_eq_pure_iff, Functions.toDate_eq_ok_iff]
    refine ⟨s, ⟨t.toDate, 0, 0, 0⟩, rfl, ?_, same⟩
    rw [same]
    exact Functions.readDefault_dateText "to_date" zone writable
  constructor
  · intro written
    rw [call_to_date, Eval.ofExcept_eq_pure_iff, Functions.toDate_eq_ok_iff] at written
    obtain ⟨text, t, given, read, same⟩ := written
    have writable := Functions.isWritable_of_readDefault read
    refine ⟨own writable same, fun part ofDate => ?_⟩
    have again := Functions.readDefault_dateText part.function zone writable
    rw [← same] at again
    have readPart : Functions.readDefault part.function (Context.ofZone zone) text = .ok t :=
      Functions.readDefault_eq_ok_iff.2 (Functions.readDefault_eq_ok_iff.1 read)
    rw [call_part, call_part, Functions.datePart_of_read part rfl again,
      Functions.datePart_of_read part given readPart, ofDate.read_eq t]
  · intro w cache written
    rw [call_to_date_by] at written
    obtain ⟨t, writable, same⟩ := Functions.exists_of_toDateBy_eq_ok written
    exact own writable same

/-- A month and a day of one digit each. -/
theorem to_date_normalizes_short :
    call (Context.ofZone Zone.utc) "to_date" [.text " 2024/2/9 "] = pure (.text "2024-02-09") ∧
      DatePart.dayOfYear.IsOfDate ∧
      call (Context.ofZone Zone.utc) "dayofyear" [.text "2024-02-09"]
        = call (Context.ofZone Zone.utc) "dayofyear" [.text " 2024/2/9 "] ∧
      ((call (Context.ofZone Zone.utc) "to_date" [.text " 2024/2/9 ", .text "yyyy/MM/dd"]).runWith
        ∅).1 = .ok (.text "2024-02-09") ∧
      call (Context.ofZone Zone.utc) "to_date" [.text "2024-02-09"]
        = pure (.text "2024-02-09") := by
  have first : call (Context.ofZone Zone.utc) "to_date" [.text " 2024/2/9 "]
      = pure (.text "2024-02-09") := by rfl
  have second : ((call (Context.ofZone Zone.utc) "to_date"
      [.text " 2024/2/9 ", .text "yyyy/MM/dd"]).runWith ∅).1 = .ok (.text "2024-02-09") := by rfl
  have ofDate : DatePart.dayOfYear.IsOfDate := by unfold DatePart.IsOfDate; decide
  obtain ⟨byFormats, byPattern⟩ :=
    to_date_normalizes Zone.utc (.text " 2024/2/9 ") "2024-02-09"
  exact ⟨first, ofDate, (byFormats first).2 .dayOfYear ofDate, second,
    byPattern _ ∅ second⟩

end Recordwise.Builtin
