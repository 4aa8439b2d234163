/-
  Recordwise.Record.Escape
  ────────────────────────
  **Escapes, and splitting at the delimiters that no escape covers.**

  An escape character takes the character behind it literally.  Two ways of
  splitting are provided: `splitEscaped` resolves the escapes while it
  splits, `splitRaw` keeps them for `unescape` to resolve later.  Both find
  fault with an escape character that nothing follows.  Main statements:

      splitEscaped_escape — escaping a text makes it one part
      unescape_escape     — resolving undoes escaping
-/

namespace Recordwise.Record

/-! ## §1. Line ends. -/

/-- Drop one line end, `\n` or `\r\n`, from the end of a reversed text. -/
def stripReversed : List Char → List Char
  | '\n' :: '\r' :: cs => cs
  | '\n' :: cs => cs
  | cs => cs

/-- Drop one line end, `\n` or `\r\n`, from the end of a text. -/
def stripLineEnd (cs : List Char) : List Char := (stripReversed cs.reverse).reverse

/-! ## §2. Escaping. -/

/-- Put the escape character before itself and before each special
character. -/
def escape (specials : List Char) (esc : Char) : List Char → List Char
  | [] => []
  | c :: cs =>
    if c = esc ∨ c ∈ specials then esc :: c :: escape specials esc cs
    else c :: escape specials esc cs

/-- Resolve escapes by a backslash; `none` when a backslash ends the text. -/
def unescape : List Char → Option (List Char)
  | [] => some []
  | '\\' :: [] => none
  | '\\' :: c :: cs => (unescape cs).map (c :: ·)
  | c :: cs => (unescape cs).map (c :: ·)

/-! ## §3. Splitting. -/

/-- Put a character in front of the first part. -/
def consHead (c : Char) : List (List Char) → List (List Char)
  | [] => [[c]]
  | p :: ps => (c :: p) :: ps

/-- Split at the delimiters that no escape covers and resolve the escapes;
`none` when an escape character ends the text. -/
def splitEscaped (delimiter esc : Char) : List Char → Option (List (List Char))
  | [] => some [[]]
  | c :: cs =>
    if c = esc then
      match cs with
      | [] => none
      | x :: r => (splitEscaped delimiter esc r).map (consHead x)
    else if c = delimiter then (splitEscaped delimiter esc cs).map ([] :: ·)
    else (splitEscaped delimiter esc cs).map (consHead c)

/-- Split at the delimiters that no backslash covers and keep the
backslashes. -/
def splitRaw (delimiter : Char) : List Char → List (List Char)
  | [] => [[]]
  | c :: cs =>
    if c = '\\' then
      match cs with
      | [] => [[c]]
      | x :: r => consHead c (consHead x (splitRaw delimiter r))
    else if c = delimiter then [] :: splitRaw delimiter cs
    else consHead c (splitRaw delimiter cs)

/-- Cut at the first delimiter that no backslash covers and keep the
backslashes; `none` when there is no such delimiter. -/
def splitEntry (delimiter : Char) : List Char → Option (List Char × List Char)
  | [] => none
  | c :: cs =>
    if c = '\\' then
      match cs with
      | [] => none
      | x :: r => (splitEntry delimiter r).map fun p => (c :: x :: p.1, p.2)
    else if c = delimiter then some ([], cs)
    else (splitEntry delimiter cs).map fun p => (c :: p.1, p.2)

/-! ## §4. Escaping and its inverses. -/

/-- Resolving undoes escaping by a backslash. -/
theorem unescape_escape (specials : List Char) (cs : List Char) :
    unescape (escape specials '\\' cs) = some cs := by
  induction cs with
  | nil => rfl
  | cons c cs ih =>
    by_cases h : c = '\\' ∨ c ∈ specials
    · simp [escape, h, unescape, ih]
    · -- a character that is not escaped is no backslash and resolves to itself
      have hc : c ≠ '\\' := fun e => h (.inl e)
      simp only [escape, h, if_false]
      rw [unescape.eq_4 _ _ (fun e _ => hc e) (fun _ _ e _ => hc e), ih]
      rfl

/-- An escaped text is one part. -/
theorem splitEscaped_escape {delimiter esc : Char} {specials : List Char}
    (h : delimiter ∈ specials) (cs : List Char) :
    splitEscaped delimiter esc (escape specials esc cs) = some [cs] := by
  induction cs with
  | nil => rfl
  | cons c cs ih =>
    by_cases hc : c = esc ∨ c ∈ specials
    · simp [escape, hc, splitEscaped, ih, consHead]
    · have h₁ : c ≠ esc := fun e => hc (.inl e)
      have h₂ : c ≠ delimiter := fun e => hc (.inr (e ▸ h))
      rw [escape, if_neg hc, splitEscaped.eq_def]
      simp [h₁, h₂, ih, consHead]

end Recordwise.Record
