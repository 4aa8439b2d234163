/-
  Recordwise.Proofs.Decimal.Written
  ─────────────────────────────────
  **The text of a float is read as a float.**

  A float is written as digits with at most one point between them, or as one
  of the words for an infinity or NaN, and a minus may stand in front.  The
  reader takes each of these forms, and none has a blank that trimming would
  drop.  Main statements:

      isPlain_positional   — how the digits of a float are written
      isSome_float?_trim_floatText
                           — whatever the float, its text is read
-/
import Recordwise.Proofs.Decimal.Denotation

namespace Recordwise.Decimal

/-! ## §1. Digits with a point. -/

/-- Whether a text is digits, with a point behind some of them or none. -/
def IsPlain (cs : List Char) : Prop :=
  ∃ whole, whole ≠ [] ∧ (∀ c ∈ whole, isDigit c = true) ∧
    (cs = whole ∨ ∃ fraction, (∀ c ∈ fraction, isDigit c = true) ∧ cs = whole ++ '.' :: fraction)

theorem isDigit_of_mem_replicate {n : ℕ} {c : Char} (h : c ∈ List.replicate n '0') :
    isDigit c = true := by
  rw [List.eq_of_mem_replicate h]
  rfl

/-- **How the digits of a float are written.** -/
theorem isPlain_positional (d : Digits) : IsPlain d.positional := by
  have digits {c : Char} (h : c ∈ natText d.digits) : isDigit c = true := isDigit_of_mem_natText h
  unfold Digits.positional
  dsimp only
  split
  · -- zeros up to the point, which is not written
    refine ⟨_, List.append_ne_nil_of_left_ne_nil (natText_ne_nil _) _, ?_, Or.inl rfl⟩
    intro c hc
    exact (List.mem_append.1 hc).elim digits isDigit_of_mem_replicate
  · split
    · -- the point stands between the digits
      rename_i inside
      refine ⟨_, ?_, fun c hc => digits (List.mem_of_mem_take hc), Or.inr ⟨_, ?_, rfl⟩⟩
      · rw [← List.length_pos_iff, List.length_take]
        omega
      · exact fun c hc => digits (List.mem_of_mem_drop hc)
    · -- or in front of them, with zeros
      refine ⟨['0'], by simp, by simp [isDigit], Or.inr ⟨_, ?_, rfl⟩⟩
      intro c hc
      exact (List.mem_append.1 hc).elim isDigit_of_mem_replicate digits

/-- Such a text is a numeral. -/
theorem IsPlain.isSome_unsignedDecimal? {cs : List Char} (h : IsPlain cs) :
    (unsignedDecimal? cs).isSome = true := by
  obtain ⟨whole, nonempty, digits, rfl | ⟨fraction, behind, rfl⟩⟩ := h
  · rw [unsignedDecimal?_eq, unsignedBy?_digits _ nonempty digits]
    rfl
  · -- the point ends the digits before it, and nothing follows those behind it
    have before : (whole ++ '.' :: fraction).takeWhile isDigit = whole := by
      rw [List.takeWhile_append_of_pos digits]
      exact List.append_nil whole
    have after : (whole ++ '.' :: fraction).dropWhile isDigit = '.' :: fraction := by
      rw [List.dropWhile_append_of_pos digits]
      rfl
    have last : fraction.dropWhile isDigit = [] := List.dropWhile_eq_nil_iff.2 behind
    unfold unsignedDecimal?
    simp only [before, after, last]
    rw [if_neg fun empty => nonempty empty.1]
    rfl

/-! ## §2. Signs. -/

/-- Whether a text without a sign is read as a float. -/
def IsMagnitude (cs : List Char) : Prop :=
  ((specialWord? cs).isSome = true ∨ (unsignedDecimal? cs).isSome = true) ∧
    splitSign cs = (false, cs) ∧ ∀ c ∈ cs, Text.isBlank c = false

/-- A fixed text is found to be one by running the reader. -/
theorem isMagnitude_of_runs {cs : List Char}
    (read : ((specialWord? cs).isSome || (unsignedDecimal? cs).isSome) = true)
    (unsigned : splitSign cs = (false, cs)) (noBlank : cs.all (fun c => !Text.isBlank c) = true) :
    IsMagnitude cs := by
  refine ⟨Bool.or_eq_true_iff.1 read, unsigned, fun c hc => ?_⟩
  rw [← Bool.not_eq_true']
  exact List.all_eq_true.1 noBlank c hc

theorem IsPlain.isMagnitude {cs : List Char} (h : IsPlain cs) : IsMagnitude cs := by
  refine ⟨Or.inr h.isSome_unsignedDecimal?, ?_, ?_⟩
  · obtain ⟨whole, nonempty, digits, text⟩ := h
    obtain ⟨c, rest, rfl⟩ := List.exists_cons_of_ne_nil nonempty
    obtain ⟨tail, rfl⟩ : ∃ tail, cs = c :: tail := by
      rcases text with rfl | ⟨fraction, -, rfl⟩
      · exact ⟨rest, rfl⟩
      · exact ⟨rest ++ '.' :: fraction, rfl⟩
    have first := (isDigit_iff c).1 (digits c (List.mem_cons_self ..))
    unfold splitSign
    split
    · rename_i sign
      rw [(List.cons.inj sign).1] at first
      exact absurd first (by decide)
    · rename_i sign
      rw [(List.cons.inj sign).1] at first
      exact absurd first (by decide)
    · rfl
  · intro c hc
    obtain ⟨whole, -, digits, rfl | ⟨fraction, behind, rfl⟩⟩ := h
    · exact isBlank_of_isDigit (digits c hc)
    · rcases List.mem_append.1 hc with front | hc
      · exact isBlank_of_isDigit (digits c front)
      · rcases List.mem_cons.1 hc with rfl | back
        · rfl
        · exact isBlank_of_isDigit (behind c back)

/-- With a minus in front or without it is read. -/
theorem IsMagnitude.isSome_float? {cs : List Char} (h : IsMagnitude cs) :
    (float? (Text.trim cs)).isSome = true ∧ (float? (Text.trim ('-' :: cs))).isSome = true := by
  obtain ⟨read, unsigned, noBlank⟩ := h
  have behindMinus : ∀ c ∈ '-' :: cs, Text.isBlank c = false :=
    List.forall_mem_cons.2 ⟨rfl, noBlank⟩
  have body : ((specialWord? cs).orElse fun _ => unsignedDecimal? cs).isSome = true := by
    cases word : specialWord? cs with
    | some x => rfl
    | none =>
        rw [word] at read
        exact read.resolve_left Bool.false_ne_true
  rw [Text.trim_eq_self_of_forall noBlank, Text.trim_eq_self_of_forall behindMinus]
  unfold float?
  rw [unsigned, Option.isSome_map, Option.isSome_map]
  exact ⟨body, body⟩

/-! ## §3. Floats. -/

/-- **Whatever the float, its text is read.** -/
theorem isSome_float?_trim_floatText (x : Float) :
    (float? (Text.trim (floatText x))).isSome = true := by
  have zero : IsMagnitude ['0'] := isMagnitude_of_runs rfl rfl rfl
  have infinity : IsMagnitude ['i', 'n', 'f'] := isMagnitude_of_runs rfl rfl rfl
  have nan : IsMagnitude ['N', 'a', 'N'] := isMagnitude_of_runs rfl rfl rfl
  unfold floatText
  cases Dyadic.ofFloat? x with
  | some d =>
      have body : IsMagnitude
          (if d.mantissa = 0 then ['0'] else (shortest d.mantissa d.exponent).positional) := by
        split
        · exact zero
        · exact (isPlain_positional _).isMagnitude
      dsimp only
      split
      · exact body.isSome_float?.2
      · exact body.isSome_float?.1
  | none =>
      dsimp only
      split
      · exact nan.isSome_float?.1
      · split
        · exact infinity.isSome_float?.2
        · exact infinity.isSome_float?.1

end Recordwise.Decimal
