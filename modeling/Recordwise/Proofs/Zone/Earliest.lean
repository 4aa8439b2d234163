/-
  Recordwise.Proofs.Zone.Earliest
  ───────────────────────────────
  **The instant of a local time is the earliest that shows it.**

  The changes of a zone cut time into spans of one offset.  The search goes
  through the spans in order and takes the first one in which the local time
  falls, so that what it finds is the least instant with that local time; it
  finds none only if there is none.  Main statements:

      instantOf?_eq_some_iff — the search finds the least instant
      instantOf?_eq_none_iff — and nothing if no instant shows the time
      exists_instantOf?      — what the clocks show at an instant is found, no
                               later than there
-/
import Mathlib.Data.Int.Order.Basic
import Mathlib.Order.Bounds.Basic
import Recordwise.Zone.Basic

namespace Recordwise.Zone

/-- The instants from a start on that show a local count of seconds, after
changes that leave an offset. -/
def showing (start? : Option Int) (offset : Int) (cs : List (Int × Int)) (l : Int) : Set Int :=
  {t | start?.all (· ≤ t) = true ∧ t + offsetAfter offset cs t = l}

/-- Whether changes come in order, and none before a start. -/
def InOrderFrom (start? : Option Int) (cs : List (Int × Int)) : Prop :=
  inOrder cs = true ∧ ∀ a ∈ start?, ∀ c ∈ cs.head?, a ≤ c.1

theorem inOrderFrom_tail {start? : Option Int} {c : Int × Int} {cs : List (Int × Int)}
    (h : InOrderFrom start? (c :: cs)) : InOrderFrom (some c.1) cs := by
  obtain ⟨ordered, -⟩ := h
  cases cs with
  | nil => exact ⟨rfl, by simp⟩
  | cons d cs =>
      rw [inOrder, Bool.and_eq_true, decide_eq_true_eq] at ordered
      refine ⟨ordered.2, ?_⟩
      intro a ha e he
      have start : c.1 = a := Option.some.inj ha
      have first : d = e := Option.some.inj he
      rw [← start, ← first]
      exact Int.le_of_lt ordered.1

theorem offsetAfter_cons_of_lt {offset stop next t : Int} {cs : List (Int × Int)} (h : t < stop) :
    offsetAfter offset ((stop, next) :: cs) t = offset := by
  rw [offsetAfter, if_pos h]

theorem offsetAfter_cons_of_le {offset stop next t : Int} {cs : List (Int × Int)} (h : stop ≤ t) :
    offsetAfter offset ((stop, next) :: cs) t = offsetAfter next cs t := by
  rw [offsetAfter, if_neg (Int.not_lt.2 h)]

/-- **The search from a span on.**  What it finds is the least instant from the
start of the span on, and if it finds nothing there is none. -/
theorem instantIn?_spec {start? : Option Int} (offset : Int) {cs : List (Int × Int)}
    (ordered : InOrderFrom start? cs) (l : Int) :
    (∀ s, instantIn? start? offset cs l = some s → IsLeast (showing start? offset cs l) s) ∧
      (instantIn? start? offset cs l = none → showing start? offset cs l = ∅) := by
  induction cs generalizing start? offset with
  | nil =>
      unfold instantIn?
      by_cases inside : start?.all (· ≤ l - offset) = true
      · rw [if_pos inside]
        refine ⟨?_, fun none => absurd none (by simp)⟩
        intro s found
        rw [← Option.some.inj found]
        refine ⟨⟨inside, Int.sub_add_cancel l offset⟩, ?_⟩
        rintro t ⟨-, shown⟩
        have same : t + offset = l := shown
        omega
      · rw [if_neg inside]
        refine ⟨fun s found => absurd found (by simp), ?_⟩
        intro _
        refine Set.eq_empty_of_forall_notMem ?_
        rintro t ⟨later, shown⟩
        have same : t + offset = l := shown
        have place : t = l - offset := by omega
        rw [place] at later
        exact inside later
  | cons c cs ih =>
      obtain ⟨stop, next⟩ := c
      obtain ⟨found, missed⟩ := ih next (inOrderFrom_tail ordered)
      unfold instantIn?
      by_cases inside : (start?.all (· ≤ l - offset) && decide (l - offset < stop)) = true
      · -- the local time falls into this span
        rw [if_pos inside]
        rw [Bool.and_eq_true, decide_eq_true_eq] at inside
        refine ⟨?_, fun none => absurd none (by simp)⟩
        intro s result
        rw [← Option.some.inj result]
        refine ⟨⟨inside.1, ?_⟩, ?_⟩
        · rw [offsetAfter_cons_of_lt inside.2]
          omega
        · rintro t ⟨-, shown⟩
          by_cases early : t < stop
          · rw [offsetAfter_cons_of_lt early] at shown
            omega
          · omega
      · rw [if_neg inside]
        -- an instant of this span would have made the test true
        have beyond : ∀ t, t ∈ showing start? offset ((stop, next) :: cs) l →
            t ∈ showing (some stop) next cs l := by
          rintro t ⟨later, shown⟩
          by_cases early : t < stop
          · rw [offsetAfter_cons_of_lt early] at shown
            have place : t = l - offset := by omega
            rw [place] at later early
            rw [later, decide_eq_true early] at inside
            exact absurd rfl inside
          · have late : stop ≤ t := Int.not_lt.1 early
            rw [offsetAfter_cons_of_le late] at shown
            exact ⟨decide_eq_true late, shown⟩
        constructor
        · intro s result
          obtain ⟨⟨late, shown⟩, least⟩ := found s result
          have lateStop : stop ≤ s := of_decide_eq_true late
          refine ⟨⟨?_, ?_⟩, fun t ht => least (beyond t ht)⟩
          · cases start? with
            | none => rfl
            | some a =>
                have begins : a ≤ stop := ordered.2 a rfl (stop, next) rfl
                exact decide_eq_true (Int.le_trans begins lateStop)
          · rw [offsetAfter_cons_of_le lateStop]
            exact shown
        · intro result
          have nothing := missed result
          refine Set.eq_empty_of_forall_notMem ?_
          intro t ht
          have inRest := beyond t ht
          rw [nothing] at inRest
          exact inRest

theorem showing_none (z : Zone) (l : Int) :
    showing none z.initial z.changes l = {t | t + z.offsetAt t = l} := by
  ext t
  exact ⟨fun h => h.2, fun h => ⟨rfl, h⟩⟩

/-- **The search finds the least instant that shows a local time.** -/
theorem instantOf?_eq_some_iff (z : Zone) (l s : Int) :
    z.instantOf? l = some s ↔ IsLeast {t | t + z.offsetAt t = l} s := by
  have ordered : InOrderFrom none z.changes := ⟨z.ordered, by simp⟩
  obtain ⟨found, missed⟩ := instantIn?_spec z.initial ordered l
  rw [showing_none] at found missed
  constructor
  · exact found s
  · intro least
    cases result : z.instantOf? l with
    | none =>
        have member := least.1
        rw [missed result] at member
        exact absurd member (Set.notMem_empty s)
    | some t => rw [(found t result).unique least]

/-- It finds nothing exactly when the local time is skipped. -/
theorem instantOf?_eq_none_iff (z : Zone) (l : Int) :
    z.instantOf? l = none ↔ ∀ t, t + z.offsetAt t ≠ l := by
  have ordered : InOrderFrom none z.changes := ⟨z.ordered, by simp⟩
  obtain ⟨-, missed⟩ := instantIn?_spec z.initial ordered l
  rw [showing_none] at missed
  constructor
  · intro result t shown
    have member : t ∈ {t | t + z.offsetAt t = l} := shown
    rw [missed result] at member
    exact member
  · intro skipped
    cases result : z.instantOf? l with
    | none => rfl
    | some s => exact absurd ((instantOf?_eq_some_iff z l s).1 result).1 (skipped s)

/-- What the clocks show at an instant is shown first at an instant that is
not after it. -/
theorem exists_instantOf? (z : Zone) (t : Int) :
    ∃ s, z.instantOf? (t + z.offsetAt t) = some s ∧ s ≤ t ∧
      s + z.offsetAt s = t + z.offsetAt t := by
  cases result : z.instantOf? (t + z.offsetAt t) with
  | none => exact absurd rfl ((instantOf?_eq_none_iff z _).1 result t)
  | some s =>
      obtain ⟨shown, least⟩ := (instantOf?_eq_some_iff z _ s).1 result
      exact ⟨s, rfl, least rfl, shown⟩

end Recordwise.Zone
