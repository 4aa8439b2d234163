/-
  Recordwise.Proofs.Value.Numbers
  ───────────────────────────────
  **The number that an integer counts as.**

  A 64-bit integer stands in a record as its decimal text and in a statement
  as itself.  Both count as the same number, the binary64 number nearest to
  the integer.  Main statement:

      Writes.asFloat? — the number is the nearest one to the integer
-/
import Recordwise.Proofs.Decimal.Denotation
import Recordwise.Value

namespace Recordwise.Value

open Binary64 (toRat? nearestInt)

/-- Whether a value is a 64-bit integer or its decimal text. -/
def Writes (v : Value) (n : Int64) : Prop :=
  v = .integer n ∨ v = .text (String.ofList (Decimal.intText n.toInt))

theorem isBlank_of_mem_intText {n : ℤ} {c : Char} (h : c ∈ Decimal.intText n) :
    Text.isBlank c = false := by
  have digit (d : Char) (h : d ∈ Decimal.natText n.natAbs) : Text.isBlank d = false :=
    Decimal.isBlank_of_isDigit (Decimal.isDigit_of_mem_natText h)
  unfold Decimal.intText at h
  split at h
  · rcases List.mem_cons.1 h with rfl | h
    · rfl
    · exact digit c h
  · exact digit c h

theorem trim_intText (n : ℤ) : Text.trim (Decimal.intText n) = Decimal.intText n :=
  Text.trim_eq_self_of_forall fun _ => isBlank_of_mem_intText

variable {v : Value} {n : Int64}

theorem Writes.isNull (h : v.Writes n) : v.isNull = false := by
  rcases h with rfl | rfl
  · rfl
  · rfl

/-- **The number of a value that writes an integer is the nearest one to it.** -/
theorem Writes.asFloat? (h : v.Writes n) :
    ∃ x, v.asFloat? = some x ∧ toRat? x = some (nearestInt n.toInt : ℚ) := by
  rcases h with rfl | rfl
  · exact ⟨_, rfl, Binary64.toRat?_ofInt64 n⟩
  · unfold Value.asFloat?
    dsimp only
    rw [String.toList_ofList, trim_intText]
    exact Decimal.float?_intText n

theorem Writes.isNumeric (h : v.Writes n) : v.isNumeric = true := by
  rcases h with rfl | rfl
  · rfl
  · obtain ⟨x, read, -⟩ := Decimal.float?_intText n
    unfold Value.isNumeric
    dsimp only
    rw [String.toList_ofList, trim_intText, read]
    rfl

end Recordwise.Value
