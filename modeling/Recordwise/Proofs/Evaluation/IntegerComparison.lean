/-
  Recordwise.Proofs.Evaluation.IntegerComparison
  ──────────────────────────────────────────────
  **Integers compare as the binary64 numbers nearest to them.**

  A comparison of two values that write integers is made on their numbers.
  Rounding keeps the order, so a comparison is wrong only by taking two
  different integers for equal: it answers what the integers themselves would
  for every sign of comparison, unless they differ and have the same nearest
  number.  Main statements:

      compares_writes — a comparison is one of the nearest integers
      relates_nearest_iff
                      — which is the comparison of the integers, unless two of
                        them become one
      holds_compare_integers
                      — both, of conditions on two columns
-/
import Recordwise.Evaluation.Expression
import Recordwise.Proofs.Evaluation.Running
import Recordwise.Proofs.Value.Numbers

namespace Recordwise

open Binary64 (toRat? nearestInt)
open Query

/-! ## §1. The order of integers. -/

/-- Whether two integers stand as a comparison asks. -/
def Query.Comparison.relates (op : Comparison) (a b : ℤ) : Bool :=
  match op with
  | .equal => a == b
  | .notEqual => a != b
  | .less => a < b
  | .lessOrEqual => a ≤ b
  | .greater => b < a
  | .greaterOrEqual => b ≤ a

theorem admits_compare (op : Comparison) (a b : ℤ) : op.admits (compare a b) = op.relates a b := by
  rcases lt_trichotomy a b with less | rfl | more
  · rw [compare_lt_iff_lt.2 less]
    cases op <;>
      simp [Comparison.admits, Comparison.relates, bne, less, less.ne, less.le, less.not_ge]
  · rw [compare_eq_iff_eq.2 rfl]
    cases op <;> simp [Comparison.admits, Comparison.relates]
  · rw [compare_gt_iff_gt.2 more]
    cases op <;>
      simp [Comparison.admits, Comparison.relates, bne, more, more.ne', more.le, more.not_ge]

/-- **Rounding changes a comparison only by making two integers one.** -/
theorem relates_nearest_iff (a b : ℤ) :
    (∀ op : Comparison, op.relates (nearestInt a) (nearestInt b) = op.relates a b)
      ↔ a = b ∨ nearestInt a ≠ nearestInt b := by
  constructor
  · intro same
    by_contra apart
    obtain ⟨differ, merged⟩ := not_or.1 apart
    have equal := same .equal
    simp [Comparison.relates, not_not.1 merged, differ] at equal
  · intro kept op
    rw [← admits_compare, ← admits_compare]
    congr 1
    -- rounding keeps the order of two that stay apart, and the equality of two that are one
    rcases lt_trichotomy a b with less | rfl | more
    · have distinct : nearestInt a ≠ nearestInt b := kept.resolve_left less.ne
      have order := (Binary64.nearestInt_mono less.le).lt_of_ne distinct
      rw [compare_lt_iff_lt.2 less, compare_lt_iff_lt.2 order]
    · rw [compare_eq_iff_eq.2 rfl, compare_eq_iff_eq.2 rfl]
    · have distinct : nearestInt a ≠ nearestInt b := kept.resolve_left more.ne'
      have order := (Binary64.nearestInt_mono more.le).lt_of_ne distinct.symm
      rw [compare_gt_iff_gt.2 more, compare_gt_iff_gt.2 order]

/-! ## §2. Comparisons of values. -/

/-- Finite floats stand in the order of their numbers. -/
theorem orderFloats_eq {x y : Float} {p q : ℚ} (hx : toRat? x = some p) (hy : toRat? y = some q) :
    orderFloats x y = some (compare p q) := by
  unfold orderFloats
  rw [if_congr (Binary64.lt_iff hx hy) rfl rfl, if_congr (Binary64.beq_iff hx hy) rfl rfl,
    if_congr (Binary64.lt_iff hy hx) rfl rfl]
  rcases lt_trichotomy p q with less | rfl | more
  · rw [if_pos less, compare_lt_iff_lt.2 less]
  · rw [if_neg (lt_irrefl _), if_pos rfl, compare_eq_iff_eq.2 rfl]
  · rw [if_neg more.not_gt, if_neg more.ne', if_pos more, compare_gt_iff_gt.2 more]

theorem compare_intCast (a b : ℤ) : compare (a : ℚ) b = compare a b := by
  rw [← cmp_eq_compare, ← cmp_eq_compare]
  exact Int.cast_strictMono.cmp_map_eq a b

/-- Values that write integers stand in the order of the nearest ones. -/
theorem orderValues_writes {v w : Value} {a b : Int64} (hv : v.Writes a) (hw : w.Writes b) :
    orderValues v w = some (compare (nearestInt a.toInt) (nearestInt b.toInt)) := by
  obtain ⟨x, readx, valuex⟩ := hv.asFloat?
  obtain ⟨y, ready, valuey⟩ := hw.asFloat?
  unfold orderValues
  rw [readx, ready, hv.isNumeric, hw.isNumeric]
  show orderFloats x y = _
  rw [orderFloats_eq valuex valuey, compare_intCast]

/-- **Values that write integers compare as the nearest numbers to them.** -/
theorem compares_writes {v w : Value} {a b : Int64} (hv : v.Writes a) (hw : w.Writes b)
    (op : Comparison) :
    compares v op w = op.relates (nearestInt a.toInt) (nearestInt b.toInt) := by
  unfold compares
  rw [hv.isNull, hw.isNull, orderValues_writes hv hw]
  exact admits_compare op _ _

/-! ## §3. Conditions on two columns. -/

variable {s : Scope} {x y : String} {v w : Value} {a b : Int64}

theorem holds_compare_columns (hx : s.binding.get? x = some v) (hy : s.binding.get? y = some w)
    (op : Comparison) :
    s.holds (.compare (.column x) op (.column y)) = pure (compares v op w) := by
  have columnx : s.column x = v := by
    unfold Scope.column
    rw [hx, Option.getD_some]
  have columny : s.column y = w := by
    unfold Scope.column
    rw [hy, Option.getD_some]
  rw [Scope.holds, Scope.evaluate, Scope.evaluate, columnx, columny]
  rfl

/-- **A comparison of two columns that write integers.** -/
theorem holds_compare_integers (hx : s.binding.get? x = some v) (hv : v.Writes a)
    (hy : s.binding.get? y = some w) (hw : w.Writes b) :
    (∀ op, s.holds (.compare (.column x) op (.column y))
        = pure (op.relates (nearestInt a.toInt) (nearestInt b.toInt)))
      ∧ ((∀ op, s.holds (.compare (.column x) op (.column y)) = pure (op.relates a.toInt b.toInt))
          ↔ a = b ∨ nearestInt a.toInt ≠ nearestInt b.toInt) := by
  have holds (op : Comparison) : s.holds (.compare (.column x) op (.column y))
      = pure (op.relates (nearestInt a.toInt) (nearestInt b.toInt)) := by
    rw [holds_compare_columns hx hy, compares_writes hv hw]
  refine ⟨holds, ?_⟩
  rw [← Int64.toInt_inj, ← relates_nearest_iff]
  exact forall_congr' fun op => by rw [holds, Eval.pure_inj]

theorem holds_compare_integers_written :
    ∃ s : Scope, ∃ v w : Value, s.binding.get? "x" = some v ∧ v.Writes 3
      ∧ s.binding.get? "y" = some w ∧ w.Writes 12
      ∧ (∀ op, s.holds (.compare (.column "x") op (.column "y"))
          = pure (op.relates (nearestInt (3 : Int64).toInt) (nearestInt (12 : Int64).toInt)))
      ∧ ((∀ op, s.holds (.compare (.column "x") op (.column "y"))
            = pure (op.relates (3 : Int64).toInt (12 : Int64).toInt))
          ↔ (3 : Int64) = 12 ∨ nearestInt (3 : Int64).toInt ≠ nearestInt (12 : Int64).toInt) := by
  have boundx : (Binding.ofList [("x", .integer 3), ("y", .text "12")]).get? "x"
      = some (.integer 3) := by decide +kernel
  have boundy : (Binding.ofList [("x", .integer 3), ("y", .text "12")]).get? "y"
      = some (.text "12") := by decide +kernel
  have number : Value.Writes (.integer 3) 3 := Or.inl rfl
  have text : Value.Writes (.text "12") 12 := Or.inr (by decide +kernel)
  exact ⟨⟨⟨Zone.utc, []⟩, .ofList [("x", .integer 3), ("y", .text "12")], []⟩, _, _, boundx, number,
    boundy, text, holds_compare_integers boundx number boundy text⟩

/-- Two integers beyond 53 bits that are next to each other compare equal. -/
theorem not_holds_compare_adjacent :
    ¬ ∀ (s : Scope) (x y : String) (v w : Value) (a b : Int64) (op : Comparison),
        s.binding.get? x = some v → v.Writes a → s.binding.get? y = some w → w.Writes b →
        s.holds (.compare (.column x) op (.column y)) = pure (op.relates a.toInt b.toInt) := by
  intro exact
  have boundx : (Binding.ofList [("x", .integer 9007199254740993),
      ("y", .integer 9007199254740992)]).get? "x" = some (.integer 9007199254740993) := by
    decide +kernel
  have boundy : (Binding.ofList [("x", .integer 9007199254740993),
      ("y", .integer 9007199254740992)]).get? "y" = some (.integer 9007199254740992) := by
    decide +kernel
  have claimed := exact ⟨⟨Zone.utc, []⟩, _, []⟩ "x" "y" _ _ 9007199254740993 9007199254740992
    .equal boundx (Or.inl rfl) boundy (Or.inl rfl)
  have merged : compares (.integer 9007199254740993) .equal (.integer 9007199254740992) = true := by
    decide +kernel
  rw [holds_compare_columns boundx boundy, merged, Eval.pure_inj] at claimed
  exact absurd claimed (by decide)

end Recordwise
