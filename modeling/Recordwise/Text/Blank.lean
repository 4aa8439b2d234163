/-
  Recordwise.Text.Blank
  ─────────────────────
  **Blank characters and trimming.**

  Blank characters are those with the Unicode property `White_Space`: the
  ASCII blanks and controls, the next-line and no-break characters and the
  spaces of general punctuation.  `trim` drops the blank characters at both
  ends of a text and keeps everything between them.  Main statements:

      isBlank_of_isWhitespace — every ASCII blank is blank
      trim_eq_self            — a text with no blank end is kept as it is
      isBlank_head_trim, isBlank_last_trim
                              — a trimmed text has no blank end
-/

namespace Recordwise.Text

/-! ## §1. The character class. -/

/-- Whether a character has the Unicode property `White_Space`. -/
def isBlank (c : Char) : Bool :=
  let n := c.toNat
  (9 ≤ n && n ≤ 13) || n == 0x20 || n == 0x85 || n == 0xA0 || n == 0x1680
    || (0x2000 ≤ n && n ≤ 0x200A) || n == 0x2028 || n == 0x2029 || n == 0x202F
    || n == 0x205F || n == 0x3000

/-- The ASCII blanks are blank. -/
theorem isBlank_of_isWhitespace {c : Char} (h : c.isWhitespace = true) : isBlank c = true := by
  simp only [Char.isWhitespace, Bool.or_eq_true, decide_eq_true_eq] at h
  rcases h with ((rfl | rfl) | rfl) | rfl <;> decide

/-! ## §2. Trimming. -/

/-- Drop the blank characters at the end. -/
def trimEnd (cs : List Char) : List Char :=
  (cs.reverse.dropWhile isBlank).reverse

/-- Drop the blank characters at both ends. -/
def trim (cs : List Char) : List Char :=
  trimEnd (cs.dropWhile isBlank)

/-- Drop the blank characters at both ends of a string. -/
def trimmed (s : String) : String :=
  String.ofList (trim s.toList)

/-- A text whose first and last characters are not blank is kept. -/
theorem trim_eq_self {cs : List Char} (first : ∀ c, cs.head? = some c → isBlank c = false)
    (last : ∀ c, cs.getLast? = some c → isBlank c = false) : trim cs = cs := by
  have hd : cs.dropWhile isBlank = cs := by
    cases cs with
    | nil => rfl
    | cons c r => simp [first c rfl]
  have tl : cs.reverse.dropWhile isBlank = cs.reverse := by
    cases h : cs.reverse with
    | nil => rfl
    | cons c r =>
      have : cs.getLast? = some c := by
        rw [List.getLast?_eq_head?_reverse, h]; rfl
      simp [last c this]
  rw [trim, hd, trimEnd, tl, List.reverse_reverse]

/-- A text without blank characters is kept. -/
theorem trim_eq_self_of_forall {cs : List Char} (noBlank : ∀ c ∈ cs, isBlank c = false) :
    trim cs = cs :=
  trim_eq_self (fun c first => noBlank c (List.mem_of_head? first))
    fun c last => noBlank c (List.mem_of_getLast? last)

/-- A trimmed text does not begin with a blank character. -/
theorem isBlank_head_trim {cs : List Char} {c : Char} (h : (trim cs).head? = some c) :
    isBlank c = false := by
  have kept : trim cs <+: cs.dropWhile isBlank := by
    have dropped := List.dropWhile_suffix isBlank (l := (cs.dropWhile isBlank).reverse)
    have front := List.reverse_prefix.2 dropped
    rw [List.reverse_reverse] at front
    exact front
  obtain ⟨rest, whole⟩ := kept
  have first : (cs.dropWhile isBlank).head? = some c := by
    rw [← whole, List.head?_append, h]
    rfl
  have stops := List.head?_dropWhile_not isBlank cs
  rw [first] at stops
  exact stops

/-- A trimmed text does not end with a blank character. -/
theorem isBlank_last_trim {cs : List Char} {c : Char} (h : (trim cs).getLast? = some c) :
    isBlank c = false := by
  have first : ((cs.dropWhile isBlank).reverse.dropWhile isBlank).head? = some c := by
    rw [← h, trim, trimEnd, List.getLast?_reverse]
  have stops := List.head?_dropWhile_not isBlank (cs.dropWhile isBlank).reverse
  rw [first] at stops
  exact stops

end Recordwise.Text
