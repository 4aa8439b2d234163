/-
  Recordwise.Proofs.DatePattern.NormalForm
  ────────────────────────────────────────
  **Literal texts of a compiled pattern are not neighbours.**

  Tokens are read from the end of a pattern on: a field is put in front, or
  literal text is joined in front.  What both steps preserve holds of every
  compiled pattern, and among it that no two literal texts are neighbours.
  Normal form asks more, `IsNormal`: that there are tokens, and that no literal
  text is empty.  Main statements:

      of_scan          — what both steps preserve holds of all tokens
      apart_of_compile — no two literal texts are neighbours
-/
import Mathlib.Data.List.Chain
import Recordwise.DatePattern.Basic

namespace Recordwise.DatePattern

open List (IsChain)

/-! ## §1. The steps of reading a pattern. -/

theorem map_eq_ok {α β ε : Type} {f : α → β} {x : Except ε α} {b : β} (h : x.map f = .ok b) :
    ∃ a, x = .ok a ∧ f a = b := by
  cases x with
  | error e => cases h
  | ok a => exact ⟨a, rfl, Except.ok.inj h⟩

/-- **Induction over the tokens that are read**: a property that the empty list
has, and that putting a field or joining literal text in front preserves. -/
theorem of_scan {P : List Token → Prop} (nil : P [])
    (field : ∀ tok ts, tok.isLiteral = false → P ts → P (tok :: ts))
    (literal : ∀ cs ts, P ts → P (consLiteral cs ts)) {quoted : Bool} {cs : List Char}
    {ts : List Token} (h : scan quoted cs = .ok ts) : P ts := by
  have put {tok : Token} {r : List Char} (plain : tok.isLiteral = false)
      (ih : ∀ {us}, scan false r = .ok us → P us) {ts : List Token}
      (h : (scan false r).map (tok :: ·) = .ok ts) : P ts := by
    obtain ⟨us, hus, rfl⟩ := map_eq_ok h
    exact field tok us plain (ih hus)
  have join {q : Bool} {l r : List Char} (ih : ∀ {us}, scan q r = .ok us → P us) {ts : List Token}
      (h : (scan q r).map (consLiteral l) = .ok ts) : P ts := by
    obtain ⟨us, hus, rfl⟩ := map_eq_ok h
    exact literal l us (ih hus)
  fun_induction scan quoted cs generalizing ts with
  | case1 => cases h
  | case2 r ih => exact join ih h
  | case3 r _ ih => exact join ih h
  | case4 c r _ _ ih => exact join ih h
  | case5 => exact Except.ok.inj h ▸ nil
  | case6 r ih => exact ih h
  | case7 r ih => exact put rfl ih h
  | case8 r ih => exact put rfl ih h
  | case9 r ih => exact put rfl ih h
  | case10 r ih => exact put rfl ih h
  | case11 r ih => exact put rfl ih h
  | case12 r ih => exact put rfl ih h
  | case13 => cases h
  | case14 c r _ _ _ _ _ _ _ _ ih => exact join ih h

/-! ## §2. Neighbours. -/

/-- Whether two tokens may be neighbours: they are not both literal text. -/
def Token.Apart (a b : Token) : Prop := a.isLiteral = true → b.isLiteral = false

theorem apart_of_scan {quoted : Bool} {cs : List Char} {ts : List Token}
    (h : scan quoted cs = .ok ts) : IsChain Token.Apart ts := by
  refine of_scan .nil ?_ ?_ h
  · intro tok ts field chain
    refine chain.cons ?_
    intro b _ literal
    rw [field] at literal
    exact absurd literal (by decide)
  · intro l ts chain
    -- literal text is joined, or a field stands behind it
    cases ts with
    | nil => exact .singleton _
    | cons tok ts =>
        cases tok with
        | literal m =>
            refine (chain.tail).cons ?_
            intro b hb _
            exact chain.rel_head? hb rfl
        | _ => exact chain.cons (by simp [Token.Apart, Token.isLiteral])

/-- **No two literal texts of a compiled pattern are neighbours.** -/
theorem apart_of_compile {source : String} {p : DatePattern} (h : compile source = .ok p) :
    IsChain Token.Apart p.tokens := by
  unfold compile at h
  split at h
  · cases h
  · obtain ⟨ts, read, rfl⟩ := map_eq_ok h
    exact apart_of_scan read

/-- Whether tokens are in normal form: there are some, no two literal texts are
neighbours, and no literal text is empty. -/
structure IsNormal (ts : List Token) : Prop where
  ne_nil : ts ≠ []
  apart : IsChain Token.Apart ts
  filled : .literal [] ∉ ts

end Recordwise.DatePattern
