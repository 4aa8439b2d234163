/-
  Recordwise.Proofs.Settings.UsableFormats
  ────────────────────────────────────────
  **Which formats of checked settings can be used.**

  Checking settings compiles their formats and asks no more of them.  A format
  reads what it writes if it has a year and literal text puts no blank at an
  end; any other format compiles too, and reads nothing whatever.  Its texts
  are read if another format of the settings happens to read them.  Main
  statements:

      isUsable_iff           — formats that read something, and what they read
      map_compile_of_context — the formats of a context are those of the
                               settings, compiled
      readDefault_format_iff — when the formats of checked settings read the
                               text that one of them writes
-/
import Recordwise.Functions.Temporal
import Recordwise.Proofs.DatePattern.BlankEnds
import Recordwise.Proofs.DatePattern.Segmentation
import Recordwise.Proofs.Functions.FormatOrder
import Recordwise.Settings.Basic

namespace Recordwise

open Calendar
open DatePattern (IsWritable)
open Functions (readDefault)

/-! ## §1. Formats that read something. -/

namespace DatePattern

/-- Whether a pattern can be used to read texts without blanks around them: it
has a year, and no blank at an end. -/
def IsUsable (p : DatePattern) : Prop := .year ∈ p.tokens ∧ p.hasBlankEnd = false

instance (p : DatePattern) : Decidable p.IsUsable :=
  inferInstanceAs (Decidable (.year ∈ p.tokens ∧ p.hasBlankEnd = false))

/-- A pattern that reads any text is usable. -/
theorem isUsable_of_parse {p : DatePattern} {text : String} {t : LocalTime}
    (read : p.parse (Text.trimmed text) = .ok t) : p.IsUsable := by
  obtain ⟨ss, -, year, -⟩ := exists_isCut_of_parse read
  refine ⟨year, ?_⟩
  rw [Bool.eq_false_iff]
  intro blank
  obtain ⟨e, refused⟩ := exists_parse_trimmed blank text
  rw [read] at refused
  cases refused

/-- A usable pattern reads all of its own texts. -/
theorem IsUsable.parse_format {source : String} {p : DatePattern} (usable : p.IsUsable)
    (compiled : compile source = .ok p) {t : LocalTime} (h : IsWritable t) :
    p.parse (Text.trimmed (p.format t)) = .ok (kept p.tokens t) := by
  rw [trimmed_format h (apart_of_compile compiled) usable.2]
  exact parse_format_kept usable.1 h

/-- **A pattern is usable if it reads anything at all**, and then it reads all
of its own texts. -/
theorem isUsable_iff {source : String} {p : DatePattern} (compiled : compile source = .ok p) :
    (p.IsUsable ↔ ∃ text t, p.parse (Text.trimmed text) = .ok t) ∧
      (p.IsUsable ↔ ∀ t, IsWritable t → ∃ u, p.parse (Text.trimmed (p.format t)) = .ok u) := by
  have own (usable : p.IsUsable) (t : LocalTime) (h : IsWritable t) :
      ∃ u, p.parse (Text.trimmed (p.format t)) = .ok u :=
    ⟨_, usable.parse_format compiled h⟩
  have writable : IsWritable ⟨⟨2000, 1, 1⟩, 0, 0, 0⟩ := ⟨by decide, by decide, by decide⟩
  constructor
  · exact ⟨fun usable => ⟨_, own usable _ writable⟩, fun ⟨_, _, read⟩ => isUsable_of_parse read⟩
  · refine ⟨own, fun all => ?_⟩
    obtain ⟨u, read⟩ := all _ writable
    exact isUsable_of_parse read

end DatePattern

/-! ## §2. The formats of settings. -/

theorem Context.formatPattern_eq_ok_iff {format : String} {p : DatePattern} :
    formatPattern format = .ok p ↔ DatePattern.compile format = .ok p := by
  unfold formatPattern
  cases DatePattern.compile format <;> simp

theorem Context.map_compile_of_map_formatPattern {formats : List String}
    {ps : List DatePattern} (each : formats.map formatPattern = ps.map .ok) :
    formats.map DatePattern.compile = ps.map .ok := by
  induction formats generalizing ps with
  | nil =>
      cases ps with
      | nil => rfl
      | cons p ps => cases each
  | cons f formats ih =>
      cases ps with
      | nil => cases each
      | cons p ps =>
          rw [List.map_cons, List.map_cons, List.cons.injEq, formatPattern_eq_ok_iff] at each
          rw [List.map_cons, List.map_cons, each.1, ih each.2]

/-- **The formats of a context are those it is made with**, compiled. -/
theorem Context.map_compile_of_withFormats {zone : Zone} {formats : List String} {ctx : Context}
    (made : withFormats zone formats = .ok ctx) :
    formats.map DatePattern.compile = ctx.formats.map .ok := by
  unfold withFormats at made
  split at made
  · cases made
  · obtain ⟨ps, each, rfl⟩ := DatePattern.map_eq_ok made
    exact map_compile_of_map_formatPattern (mapM_eq_ok_iff.1 each)

namespace Settings

variable {zones : Zone.Database} {s : Settings} {ctx : Context}

/-- Checked settings make a context. -/
theorem exists_context_of_check (checked : s.check zones = .ok ()) :
    ∃ ctx, s.context zones = .ok ctx := by
  unfold check at checked
  split at checked
  · cases checked
  · obtain ⟨ctx, made, -⟩ := DatePattern.map_eq_ok checked
    exact ⟨ctx, made⟩

theorem map_compile_of_context (made : s.context zones = .ok ctx) :
    s.formats.map DatePattern.compile = ctx.formats.map .ok := by
  obtain ⟨zone, -, made⟩ := bind_eq_ok_iff.1 made
  exact Context.map_compile_of_withFormats made

/-- **When the formats of checked settings read the text that one of them
writes.**  All formats compile.  The text of a usable one is read; that of
another one is read only if some other format happens to read it, for that one
reads no text at all. -/
theorem readDefault_format_iff (checked : s.check zones = .ok ()) :
    ∃ ctx, s.context zones = .ok ctx ∧ s.formats.map DatePattern.compile = ctx.formats.map .ok ∧
      ∀ p ∈ ctx.formats,
        (∀ function t, IsWritable t →
          ((∃ u, readDefault function ctx (p.format t) = .ok u) ↔
            p.IsUsable ∨ ∃ q ∈ ctx.formats, q ≠ p ∧ q.IsUsable ∧
              ∃ u, q.parse (Text.trimmed (p.format t)) = .ok u)) ∧
        (¬ p.IsUsable → ∀ text, ∃ e, p.parse (Text.trimmed text) = .error e) := by
  obtain ⟨ctx, made⟩ := exists_context_of_check checked
  have compiled := map_compile_of_context made
  refine ⟨ctx, made, compiled, fun p listed => ⟨fun function t h => ?_, fun useless text => ?_⟩⟩
  · have own : DatePattern.compile p.source = .ok p := by
      have among : .ok p ∈ s.formats.map DatePattern.compile := by
        rw [compiled]
        exact List.mem_map_of_mem listed
      obtain ⟨f, -, same⟩ := List.mem_map.1 among
      rw [DatePattern.source_of_compile same, same]
    simp only [Functions.readDefault_eq_ok_iff, Functions.exists_readDefault?_iff]
    constructor
    · rintro ⟨q, listed', u, read⟩
      have usable := DatePattern.isUsable_of_parse read
      by_cases same : q = p
      · exact .inl (same ▸ usable)
      · exact .inr ⟨q, listed', same, usable, u, read⟩
    · rintro (usable | ⟨q, listed', -, -, read⟩)
      · exact ⟨p, listed, _, usable.parse_format own h⟩
      · exact ⟨q, listed', read⟩
  · cases read : p.parse (Text.trimmed text) with
    | error e => exact ⟨e, rfl⟩
    | ok t => exact absurd (DatePattern.isUsable_of_parse read) useless

/-- Of two formats the one that has a year is usable. -/
theorem readDefault_format_iff_monthFirst :
    check .tabulated ⟨"select a from source", "UTC", ["MM/yyyy", "HH:mm"]⟩ = .ok () ∧
      IsWritable ⟨⟨2024, 2, 29⟩, 10, 30, 0⟩ ∧
      ∃ ctx, context .tabulated ⟨"select a from source", "UTC", ["MM/yyyy", "HH:mm"]⟩ = .ok ctx ∧
        (∃ u, readDefault "month" ctx "02/2024" = .ok u) ∧
        ¬ ∃ u, readDefault "hour" ctx "10:30" = .ok u := by
  have checked : check .tabulated ⟨"select a from source", "UTC", ["MM/yyyy", "HH:mm"]⟩ = .ok () :=
    rfl
  have writable : IsWritable ⟨⟨2024, 2, 29⟩, 10, 30, 0⟩ := ⟨by decide, by decide, by decide⟩
  obtain ⟨ctx, made, -, each⟩ := readDefault_format_iff checked
  have month : DatePattern.format ⟨"MM/yyyy", [.month, .literal ['/'], .year]⟩
      ⟨⟨2024, 2, 29⟩, 10, 30, 0⟩ = "02/2024" := by decide
  have clock : DatePattern.format ⟨"HH:mm", [.hour, .literal [':'], .minute]⟩
      ⟨⟨2024, 2, 29⟩, 10, 30, 0⟩ = "10:30" := by decide
  have own : context .tabulated ⟨"select a from source", "UTC", ["MM/yyyy", "HH:mm"]⟩
      = .ok ⟨Zone.utc, [⟨"MM/yyyy", [.month, .literal ['/'], .year]⟩,
        ⟨"HH:mm", [.hour, .literal [':'], .minute]⟩]⟩ := rfl
  obtain rfl := Except.ok.inj (made.symm.trans own)
  obtain ⟨first, -⟩ := each _ List.mem_cons_self
  obtain ⟨second, -⟩ := each _ (List.mem_cons_of_mem _ List.mem_cons_self)
  have first := first "month" _ writable
  have second := second "hour" _ writable
  rw [month] at first
  rw [clock] at second
  refine ⟨checked, writable, _, made, first.2 (.inl (by decide)), fun read => ?_⟩
  obtain useful | ⟨q, listed, other, -, u, parsed⟩ := second.1 read
  · exact absurd useful (by decide)
  · rcases List.mem_cons.1 listed with rfl | listed
    · cases parsed
    · exact other (List.mem_singleton.1 listed)

/-- **Checked settings may list formats that cannot be used**, whatever the
database of zones: one without a year reads none of its own texts. -/
theorem not_readDefault_format : ¬ ∃ zones : Zone.Database, ∀ s : Settings,
    s.check zones = .ok () → ∃ ctx, s.context zones = .ok ctx ∧
      ∀ f ∈ s.formats, ∃ p, DatePattern.compile f = .ok p ∧
        ∀ t, IsWritable t → ∃ u, readDefault "to_date" ctx (p.format t) = .ok u := by
  rintro ⟨zones, all⟩
  obtain ⟨ctx, made, each⟩ :=
    all { statement := "select a from source", formats := ["HH:mm"] } rfl
  obtain ⟨p, compiled, reads⟩ := each "HH:mm" List.mem_cons_self
  obtain rfl := Except.ok.inj compiled
  obtain rfl := Except.ok.inj made
  obtain ⟨u, read⟩ := reads ⟨⟨2024, 2, 29⟩, 10, 30, 0⟩ ⟨by decide, by decide, by decide⟩
  cases read

end Settings

end Recordwise
