/-
  Recordwise.Proofs.Decimal.Order
  ───────────────────────────────
  **Floats compare as their places on the extended line do.**

  A float that is not NaN has a place among the numbers and the two
  infinities; both zeros have the same.  Two floats compare as their places
  do, and NaN, which has none, compares with nothing.  Main statements:

      place?_eq_none_iff — NaN alone has no place
      compare_places     — floats compare as their places do
-/
import Recordwise.Proofs.Decimal.Arithmetic

namespace Recordwise.Binary64

open Float.Model (UnpackedFloat)
open Float.Model.UnpackedFloat (Sign)

/-! ## §1. Places. -/

/-- The numbers and the two infinities. -/
abbrev Place := WithBot (WithTop ℚ)

/-- The place of a number. -/
def Place.ofRat (q : ℚ) : Place := ((q : WithTop ℚ) : WithBot (WithTop ℚ))

/-- The place of an infinity. -/
def Place.infinite : Sign → Place
  | .negative => ⊥
  | .positive => ((⊤ : WithTop ℚ) : WithBot (WithTop ℚ))

/-- The place of a float whose fields are apart. -/
def placeOf? : UnpackedFloat → Option Place
  | .notANumber => none
  | .infinity s => some (.infinite s)
  | .zero _ => some (.ofRat 0)
  | .finite s m e _ => some (.ofRat (signed s (m * 2 ^ e)))

/-- The place of a float; NaN has none. -/
def place? (x : Float) : Option Place := placeOf? x.toModel.unpack

/-- **NaN alone has no place.** -/
theorem place?_eq_none_iff (x : Float) : place? x = none ↔ x.isNaN = true := by
  show placeOf? x.toModel.unpack = none ↔ x.toModel.unpack.isNaN = true
  cases x.toModel.unpack <;> simp [placeOf?, UnpackedFloat.isNaN]

/-- A finite float is at the place of its number. -/
theorem placeOf?_of_valueOf? {u : UnpackedFloat} {q : ℚ} (h : valueOf? u = some q) :
    placeOf? u = some (.ofRat q) := by
  cases u with
  | notANumber => cases h
  | infinity s => cases h
  | zero s => exact congrArg (fun r => some (Place.ofRat r)) (Option.some.inj h)
  | finite s m e pos => exact congrArg (fun r => some (Place.ofRat r)) (Option.some.inj h)

/-- A float is finite, infinite or NaN. -/
theorem finite_or_not (u : UnpackedFloat) :
    (∃ q, valueOf? u = some q) ∨ (∃ s, u = .infinity s) ∨ u = .notANumber := by
  cases u with
  | notANumber => exact Or.inr (Or.inr rfl)
  | infinity s => exact Or.inr (Or.inl ⟨s, rfl⟩)
  | zero s => exact Or.inl ⟨_, rfl⟩
  | finite s m e pos => exact Or.inl ⟨_, rfl⟩

/-! ## §2. The order of places. -/

theorem compare_ofRat (p q : ℚ) : compare (Place.ofRat p) (Place.ofRat q) = compare p q := by
  have mono : StrictMono Place.ofRat := WithBot.coe_strictMono.comp WithTop.coe_strictMono
  rw [← cmp_eq_compare, ← cmp_eq_compare]
  exact mono.cmp_map_eq p q

theorem bot_lt_ofRat (q : ℚ) : Place.infinite .negative < Place.ofRat q := WithBot.bot_lt_coe _

theorem ofRat_lt_top (q : ℚ) : Place.ofRat q < Place.infinite .positive :=
  WithBot.coe_lt_coe.2 (WithTop.coe_lt_top q)

theorem compare_infinite (s t : Sign) :
    compare (Place.infinite s) (Place.infinite t) = compare s t := by
  have ends : Place.infinite .negative < Place.infinite .positive := WithBot.bot_lt_coe _
  cases s with
  | negative =>
      cases t with
      | negative => exact compare_eq_iff_eq.2 rfl
      | positive => exact compare_lt_iff_lt.2 ends
  | positive =>
      cases t with
      | negative => exact compare_gt_iff_gt.2 ends
      | positive => exact compare_eq_iff_eq.2 rfl

/-! ## §3. The order of floats. -/

/-- A finite float stands between the infinities. -/
theorem compare_infinity {u : UnpackedFloat} {q : ℚ} (h : valueOf? u = some q) (s : Sign) :
    u.compare (.infinity s) = some (compare (Place.ofRat q) (Place.infinite s))
      ∧ (UnpackedFloat.infinity s).compare u
        = some (compare (Place.infinite s) (Place.ofRat q)) := by
  have low := bot_lt_ofRat q
  have high := ofRat_lt_top q
  cases s with
  | negative =>
      rw [compare_gt_iff_gt.2 low, compare_lt_iff_lt.2 low]
      cases u with
      | notANumber => cases h
      | infinity s => cases h
      | zero s => exact ⟨rfl, rfl⟩
      | finite s m e pos => exact ⟨rfl, rfl⟩
  | positive =>
      rw [compare_lt_iff_lt.2 high, compare_gt_iff_gt.2 high]
      cases u with
      | notANumber => cases h
      | infinity s => cases h
      | zero s => exact ⟨rfl, rfl⟩
      | finite s m e pos => exact ⟨rfl, rfl⟩

/-- **Floats compare as their places do**, and NaN with nothing. -/
theorem compare_places (x y : Float) :
    x.toModel.unpack.compare y.toModel.unpack = Option.map₂ compare (place? x) (place? y) := by
  unfold place?
  rcases finite_or_not x.toModel.unpack with ⟨p, hp⟩ | ⟨s, hx⟩ | hx
  · rw [placeOf?_of_valueOf? hp]
    rcases finite_or_not y.toModel.unpack with ⟨q, hq⟩ | ⟨t, hy⟩ | hy
    · rw [placeOf?_of_valueOf? hq, compare_unpack ((toRat?_eq x).trans hp) ((toRat?_eq y).trans hq),
        ← compare_ofRat]
      rfl
    · rw [hy]
      exact (compare_infinity hp t).1
    · rw [hy]
      cases x.toModel.unpack <;> rfl
  · rw [hx]
    rcases finite_or_not y.toModel.unpack with ⟨q, hq⟩ | ⟨t, hy⟩ | hy
    · rw [placeOf?_of_valueOf? hq]
      exact (compare_infinity hq s).2
    · rw [hy]
      exact congrArg some (compare_infinite s t).symm
    · rw [hy]
      rfl
  · rw [hx]
    rfl

end Recordwise.Binary64
