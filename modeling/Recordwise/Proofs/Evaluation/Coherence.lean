/-
  Recordwise.Proofs.Evaluation.Coherence
  ──────────────────────────────────────
  **The six comparisons hang together.**

  Two values compare by the places of their numbers when both are numeric and
  by their texts otherwise.  Either way they have one order, which decides all
  six comparisons, unless one of them is null or a number that is NaN.  A
  number is never equal to a text that writes none, since the text of a number
  is read as one: so equality means to count as the same, and is transitive
  across numbers, numeric texts and other texts.  Main statements:

      isNumeric_eq           — a value is numeric when its text reads as a float
      orderValues_swap       — exchanging two values turns their order round
      orderValues_eq_none_iff
                             — which values have no order
      orderValues_eq_eq_iff  — equal values are those that count as the same
      compares_coherent      — the laws of the six comparisons
-/
import Recordwise.Evaluation.Expression
import Recordwise.Proofs.Decimal.Order
import Recordwise.Proofs.Decimal.Written
import Recordwise.Proofs.Value.Numbers

namespace Recordwise

open Binary64 (Place place?)
open Query

/-! ## §1. The orders of floats and of texts. -/

/-- Floats stand in the order of their places. -/
theorem orderFloats_eq_places (x y : Float) :
    orderFloats x y = Option.map₂ compare (place? x) (place? y) := by
  have below (x y : Float) : x < y ↔ Option.map₂ compare (place? x) (place? y) = some .lt := by
    show (decide ((x.toModel.unpack.compare y.toModel.unpack == some .lt) = true)) = true ↔ _
    rw [Binary64.compare_places, decide_eq_true_eq, beq_iff_eq]
  have level : (x == y) = true ↔ Option.map₂ compare (place? x) (place? y) = some .eq := by
    show (x.toModel.unpack.compare y.toModel.unpack == some .eq) = true ↔ _
    rw [Binary64.compare_places, beq_iff_eq]
  unfold orderFloats
  rw [if_congr (below x y) rfl rfl, if_congr level rfl rfl, if_congr (below y x) rfl rfl]
  cases place? x with
  | none => cases place? y <;> rfl
  | some p =>
      cases place? y with
      | none => rfl
      | some q =>
          simp only [Option.map₂_some_some, Option.some.injEq]
          rcases lt_trichotomy p q with less | rfl | more
          · rw [compare_lt_iff_lt.2 less]
            rfl
          · rw [compare_eq_iff_eq.2 rfl]
            rfl
          · rw [compare_gt_iff_gt.2 more, compare_lt_iff_lt.2 more]
            rfl

/-- Texts stand in the order of their code points. -/
theorem orderTexts_eq_compare (cs ds : List Char) :
    orderTexts cs ds = compare (cs.map Char.toNat) (ds.map Char.toNat) := by
  induction cs generalizing ds with
  | nil => cases ds <;> rfl
  | cons c cs ih =>
      cases ds with
      | nil => rfl
      | cons d ds =>
          rw [orderTexts, List.map_cons, List.map_cons, List.compare_cons_cons]
          rcases lt_trichotomy c.toNat d.toNat with less | same | more
          · rw [if_pos less, compare_lt_iff_lt.2 less]
            rfl
          · rw [if_neg same.not_lt, if_neg same.not_gt, compare_eq_iff_eq.2 same]
            exact ih ds
          · rw [if_neg more.not_gt, if_pos more, compare_gt_iff_gt.2 more]
            rfl

theorem orderTexts_swap (cs ds : List Char) : orderTexts ds cs = (orderTexts cs ds).swap := by
  rw [orderTexts_eq_compare, orderTexts_eq_compare]
  exact Std.OrientedOrd.eq_swap

theorem orderTexts_eq_eq_iff (cs ds : List Char) : orderTexts cs ds = .eq ↔ cs = ds := by
  have injective : Function.Injective Char.toNat := fun _ _ => Char.toNat_inj.1
  rw [orderTexts_eq_compare, Std.LawfulEqOrd.compare_eq_iff_eq]
  exact (List.map_injective_iff.2 injective).eq_iff

/-! ## §2. What a value counts as. -/

namespace Value

/-- Whether a value is a number that is NaN, or a text that reads as one. -/
def DenotesNaN (v : Value) : Prop := ∃ x, v.asFloat? = some x ∧ x.isNaN = true

/-- What a value counts as in a comparison: the place of its number, or its
text. -/
def standing (v : Value) : Option Place ⊕ List Char :=
  if v.isNumeric = true then .inl (v.asFloat?.bind place?) else .inr v.render.toList

/-- **A value is numeric when its text reads as a float.** -/
theorem isNumeric_eq {v : Value} (h : v ≠ .null) :
    v.isNumeric = (Decimal.float? (Text.trim v.render.toList)).isSome := by
  cases v with
  | null => exact absurd rfl h
  | boolean b => cases b <;> rfl
  | integer n =>
      obtain ⟨x, read, -⟩ := Decimal.float?_intText n
      show true = (Decimal.float? (Text.trim (String.ofList _).toList)).isSome
      rw [String.toList_ofList, trim_intText, read]
      rfl
  | float x =>
      show true = (Decimal.float? (Text.trim (String.ofList _).toList)).isSome
      rw [String.toList_ofList, Decimal.isSome_float?_trim_floatText]
  | text s => rfl

theorem exists_asFloat? {v : Value} (h : v.isNumeric = true) : ∃ x, v.asFloat? = some x := by
  cases v with
  | null => cases h
  | boolean b => cases h
  | integer n => exact ⟨_, rfl⟩
  | float x => exact ⟨_, rfl⟩
  | text s => exact Option.isSome_iff_exists.1 h

theorem denotesNaN_iff {v : Value} (h : v.isNumeric = true) :
    v.DenotesNaN ↔ v.asFloat?.bind place? = none := by
  obtain ⟨x, number⟩ := exists_asFloat? h
  unfold DenotesNaN
  rw [number, Option.bind_some, Binary64.place?_eq_none_iff]
  simp

end Value

/-! ## §3. The order of two values. -/

variable {v w : Value}

/-- Numbers stand in the order of their places. -/
theorem orderValues_of_numeric (hv : v.isNumeric = true) (hw : w.isNumeric = true) :
    orderValues v w
      = Option.map₂ compare (v.asFloat?.bind place?) (w.asFloat?.bind place?) := by
  obtain ⟨x, first⟩ := Value.exists_asFloat? hv
  obtain ⟨y, second⟩ := Value.exists_asFloat? hw
  unfold orderValues
  rw [first, second, hv, hw]
  exact orderFloats_eq_places x y

/-- Where one is no number, both stand in the order of their texts. -/
theorem orderValues_of_text (h : ¬ (v.isNumeric = true ∧ w.isNumeric = true)) :
    orderValues v w = some (orderTexts v.render.toList w.render.toList) := by
  have off : (v.isNumeric && w.isNumeric) = false := by
    rw [Bool.eq_false_iff]
    exact fun both => h (Bool.and_eq_true_iff.1 both)
  unfold orderValues
  cases v.asFloat? with
  | none => rfl
  | some x =>
      cases w.asFloat? with
      | none => rfl
      | some y =>
          dsimp only
          rw [off]
          rfl

/-- **Exchanging two values turns their order round.** -/
theorem orderValues_swap (v w : Value) : orderValues w v = (orderValues v w).map .swap := by
  by_cases both : v.isNumeric = true ∧ w.isNumeric = true
  · rw [orderValues_of_numeric both.1 both.2, orderValues_of_numeric both.2 both.1]
    cases v.asFloat?.bind place? with
    | none => cases w.asFloat?.bind place? <;> rfl
    | some p =>
        cases w.asFloat?.bind place? with
        | none => rfl
        | some q =>
            show some (compare q p) = some (compare p q).swap
            rw [← cmp_eq_compare, ← cmp_eq_compare, cmp_swap]
  · rw [orderValues_of_text both, orderValues_of_text fun h => both h.symm, orderTexts_swap]
    rfl

/-- **Two numbers of which one is NaN have no order, and all others have.** -/
theorem orderValues_eq_none_iff (v w : Value) :
    orderValues v w = none ↔
      v.isNumeric = true ∧ w.isNumeric = true ∧ (v.DenotesNaN ∨ w.DenotesNaN) := by
  by_cases both : v.isNumeric = true ∧ w.isNumeric = true
  · rw [orderValues_of_numeric both.1 both.2, Value.denotesNaN_iff both.1,
      Value.denotesNaN_iff both.2, Option.map₂_eq_none_iff]
    exact ⟨fun h => ⟨both.1, both.2, h⟩, fun h => h.2.2⟩
  · rw [orderValues_of_text both]
    exact iff_of_false (by simp) fun h => both ⟨h.1, h.2.1⟩

/-- A number and a value that is none have different texts. -/
theorem isNumeric_congr_of_render (hv : v ≠ .null) (hw : w ≠ .null) (same : v.render = w.render) :
    v.isNumeric = w.isNumeric := by
  rw [Value.isNumeric_eq hv, Value.isNumeric_eq hw, same]

/-- **Equal values are those that count as the same.** -/
theorem orderValues_eq_eq_iff (hv : v ≠ .null) (hw : w ≠ .null) (real : ¬ v.DenotesNaN) :
    orderValues v w = some .eq ↔ v.standing = w.standing := by
  unfold Value.standing
  by_cases numericv : v.isNumeric = true
  · by_cases numericw : w.isNumeric = true
    · rw [orderValues_of_numeric numericv numericw, if_pos numericv, if_pos numericw,
        Sum.inl.injEq]
      rw [Value.denotesNaN_iff numericv] at real
      obtain ⟨p, place⟩ := Option.ne_none_iff_exists'.1 real
      rw [place]
      cases w.asFloat?.bind place? with
      | none => simp
      | some q => simp
    · -- only equal texts would make them equal, and texts tell numbers from others
      rw [orderValues_of_text fun both => numericw both.2, if_pos numericv, if_neg numericw,
        Option.some.injEq, orderTexts_eq_eq_iff, String.toList_inj]
      refine iff_of_false (fun same => numericw ?_) (by simp)
      rw [← isNumeric_congr_of_render hv hw same]
      exact numericv
  · rw [orderValues_of_text fun both => numericv both.1, if_neg numericv, Option.some.injEq,
      orderTexts_eq_eq_iff]
    by_cases numericw : w.isNumeric = true
    · rw [if_pos numericw, String.toList_inj]
      refine iff_of_false (fun same => numericv ?_) (by simp)
      rw [isNumeric_congr_of_render hv hw same]
      exact numericw
    · rw [if_neg numericw, Sum.inr.injEq]

/-! ## §4. The comparisons. -/

/-- Whether no comparison of two values holds: one is null, or both are
numbers and one of these is NaN. -/
def Incomparable (v w : Value) : Prop :=
  v = .null ∨ w = .null ∨ v.isNumeric = true ∧ w.isNumeric = true ∧ (v.DenotesNaN ∨ w.DenotesNaN)

/-- The comparison that asks the same with the sides exchanged. -/
def Query.Comparison.reversed : Comparison → Comparison
  | .equal => .equal
  | .notEqual => .notEqual
  | .less => .greater
  | .lessOrEqual => .greaterOrEqual
  | .greater => .less
  | .greaterOrEqual => .lessOrEqual

theorem admits_reversed (op : Comparison) (o : Ordering) :
    op.reversed.admits o.swap = op.admits o := by
  cases op <;> cases o <;> rfl

theorem compares_of_ne_null (hv : v ≠ .null) (hw : w ≠ .null) (op : Comparison) :
    compares v op w = (orderValues v w).any op.admits := by
  have notNull {u : Value} (h : u ≠ .null) : u.isNull = false := by
    cases u with
    | null => exact absurd rfl h
    | _ => rfl
  unfold compares
  rw [notNull hv, notNull hw]
  cases orderValues v w <;> rfl

theorem compares_null (v : Value) (op : Comparison) :
    compares .null op v = false ∧ compares v op .null = false := by
  refine ⟨rfl, ?_⟩
  cases v <;> rfl

/-- Values that are comparable have an order, which decides every
comparison. -/
theorem exists_order_of_comparable (h : ¬ Incomparable v w) :
    ∃ o : Ordering, ∀ op, compares v op w = op.admits o := by
  unfold Incomparable at h
  rw [not_or, not_or, ← orderValues_eq_none_iff] at h
  obtain ⟨hv, hw, ordered⟩ := h
  obtain ⟨o, order⟩ := Option.ne_none_iff_exists'.1 ordered
  refine ⟨o, fun op => ?_⟩
  rw [compares_of_ne_null hv hw, order]
  rfl

theorem compares_of_incomparable (h : Incomparable v w) (op : Comparison) :
    compares v op w = false := by
  by_cases hv : v = .null
  · rw [hv]
    exact (compares_null w op).1
  · by_cases hw : w = .null
    · rw [hw]
      exact (compares_null v op).2
    · have none := (orderValues_eq_none_iff v w).2 ((h.resolve_left hv).resolve_left hw)
      rw [compares_of_ne_null hv hw, none]
      rfl

theorem compares_reversed (v w : Value) (op : Comparison) :
    compares w op.reversed v = compares v op w := by
  by_cases hv : v = .null
  · rw [hv, (compares_null w _).2, (compares_null w _).1]
  · by_cases hw : w = .null
    · rw [hw, (compares_null v _).1, (compares_null v _).2]
    · rw [compares_of_ne_null hv hw, compares_of_ne_null hw hv, orderValues_swap]
      cases orderValues v w with
      | none => rfl
      | some o => exact admits_reversed op o

/-- Equality means to count as the same. -/
theorem compares_equal_iff (hv : v ≠ .null) (hw : w ≠ .null) (real : ¬ v.DenotesNaN) :
    compares v .equal w = true ↔ v.standing = w.standing := by
  rw [← orderValues_eq_eq_iff hv hw real, compares_of_ne_null hv hw]
  cases orderValues v w with
  | none => simp
  | some o => cases o <;> simp [Comparison.admits]

/-- **The laws of the six comparisons**: nothing holds of incomparable values;
of others exactly one of equal, less and greater does, and the other three
follow from these; exchanging the sides reverses a comparison; and equality is
an equivalence of the values that are neither null nor NaN. -/
theorem compares_coherent :
    (∀ v w, Incomparable v w → ∀ op, compares v op w = false) ∧
    (∀ v w, ¬ Incomparable v w →
      (∃! op, op ∈ [Comparison.equal, .less, .greater] ∧ compares v op w = true) ∧
      compares v .notEqual w = (!compares v .equal w) ∧
      compares v .lessOrEqual w = (compares v .less w || compares v .equal w) ∧
      compares v .greaterOrEqual w = (compares v .greater w || compares v .equal w)) ∧
    (∀ v w op, compares w (Comparison.reversed op) v = compares v op w) ∧
    Equivalence fun v w : { v : Value // v ≠ .null ∧ ¬ v.DenotesNaN } =>
      compares v.1 .equal w.1 = true := by
  refine ⟨fun v w => compares_of_incomparable, fun v w comparable => ?_, compares_reversed, ?_⟩
  · obtain ⟨o, decided⟩ := exists_order_of_comparable comparable
    simp only [decided]
    cases o with
    | lt => exact ⟨⟨.less, by simp [Comparison.admits], by simp [Comparison.admits]⟩, rfl, rfl, rfl⟩
    | eq =>
      exact ⟨⟨.equal, by simp [Comparison.admits], by simp [Comparison.admits]⟩, rfl, rfl, rfl⟩
    | gt =>
        exact ⟨⟨.greater, by simp [Comparison.admits], by simp [Comparison.admits]⟩, rfl, rfl, rfl⟩
  · have same (v w : { v : Value // v ≠ .null ∧ ¬ v.DenotesNaN }) :
        compares v.1 .equal w.1 = true ↔ v.1.standing = w.1.standing :=
      compares_equal_iff v.2.1 w.2.1 v.2.2
    simp only [same]
    exact ⟨fun _ => rfl, Eq.symm, Eq.trans⟩

/-- A numeric text is incomparable with NaN, and a truth value is comparable
with a number, by its text. -/
theorem compares_coherent_mixed :
    Incomparable (.text " 1e0") (.text "nan") ∧
      (∀ op, compares (.text " 1e0") op (.text "nan") = false) ∧
      ¬ Incomparable (.boolean true) (.integer 1) ∧
      (∃! op, op ∈ [Comparison.equal, .less, .greater] ∧
        compares (.boolean true) op (.integer 1) = true) := by
  have nan : Value.DenotesNaN (.text "nan") := ⟨0.0 / 0.0, by decide +kernel, by decide +kernel⟩
  have incomparable : Incomparable (.text " 1e0") (.text "nan") :=
    Or.inr (Or.inr ⟨by decide +kernel, by decide +kernel, Or.inr nan⟩)
  have comparable : ¬ Incomparable (.boolean true) (.integer 1) := by
    rintro (h | h | ⟨h, -⟩)
    · cases h
    · cases h
    · cases h
  obtain ⟨nothing, laws, -⟩ := compares_coherent
  exact ⟨incomparable, nothing _ _ incomparable, comparable, (laws _ _ comparable).1⟩

end Recordwise
