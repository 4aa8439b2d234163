/-
  Recordwise.DatePattern.Cache
  ────────────────────────────
  **Compiled patterns kept by their text.**

  The cache keeps the first 256 patterns that compile; it never drops or
  changes one.  Main statements:

      fst_get     — while every entry is the compilation of its text, asking
                    the cache is compiling
      isSound_get — asking keeps every entry the compilation of its text
-/
import Recordwise.DatePattern.Basic

namespace Recordwise.DatePattern

/-- Compiled patterns by their text. -/
structure Cache where
  /-- The texts and their patterns, in order of arrival. -/
  patterns : List (String × DatePattern)
  deriving Repr, DecidableEq

namespace Cache

/-- The most patterns that are kept. -/
def capacity : Nat := 256

/-- The cache that keeps nothing yet. -/
def empty : Cache := ⟨[]⟩

instance : EmptyCollection Cache := ⟨empty⟩
instance : Inhabited Cache := ⟨empty⟩

/-- The number of patterns kept. -/
def size (c : Cache) : Nat := c.patterns.length

/-- Whether nothing is kept. -/
def isEmpty (c : Cache) : Bool := c.patterns.isEmpty

/-- The pattern kept for a text. -/
def get? (c : Cache) (source : String) : Option DatePattern := c.patterns.lookup source

/-- The pattern of a text, kept from now on if there is room. -/
def get (c : Cache) (source : String) : Except CompileFault DatePattern × Cache :=
  match c.get? source with
  | some p => (.ok p, c)
  | none =>
    match compile source with
    | .ok p => (.ok p, if c.size < capacity then ⟨c.patterns ++ [(source, p)]⟩ else c)
    | .error e => (.error e, c)

/-- Whether every entry is the compilation of its text. -/
def IsSound (c : Cache) : Prop := ∀ s p, c.get? s = some p → compile s = .ok p

theorem isSound_empty : empty.IsSound := by
  intro s p h; cases h

/-- **Asking a sound cache is compiling.** -/
theorem fst_get {c : Cache} (h : c.IsSound) (source : String) :
    (c.get source).1 = compile source := by
  unfold get
  split
  · rename_i p hp; exact (h _ _ hp).symm
  · split <;> simp_all

/-- **Asking keeps a cache sound.** -/
theorem isSound_get {c : Cache} (h : c.IsSound) (source : String) : (c.get source).2.IsSound := by
  unfold get
  cases c.get? source with
  | some p => exact h
  | none =>
    cases compiled : compile source with
    | error e => exact h
    | ok p =>
      show (if c.size < capacity then (⟨c.patterns ++ [(source, p)]⟩ : Cache) else c).IsSound
      by_cases room : c.size < capacity
      · rw [if_pos room]
        intro s q found
        unfold get? at found
        rw [List.lookup_append] at found
        cases old : c.patterns.lookup s with
        | some r =>
          rw [old] at found
          exact h s q (old.trans found)
        | none =>
          -- the new entry is the only one that can answer
          rw [old, List.lookup_cons] at found
          by_cases same : s = source
          · subst same
            rw [beq_self_eq_true] at found
            cases found
            exact compiled
          · rw [beq_eq_false_iff_ne.2 same] at found
            cases found
      · rw [if_neg room]
        exact h

end Cache

end Recordwise.DatePattern
