/-
  Recordwise.Zone.Basic
  ─────────────────────
  **Time zones as step functions from instants to offsets.**

  A zone starts with one offset and changes it at certain instants.  The
  local time of an instant is the instant plus the offset that holds there;
  an instant of a local time is any instant with that local time.
  `instantOf?` looks for the earliest such instant, change by change.  The
  changes of a zone are in order, and no offset is as long as a day.  Main
  statements:

      isOffset_offsetAt — the offset at an instant is shorter than a day
      offsetAt_fixed    — a zone without changes has one offset
      instantOf?_fixed  — and every local time in it has one instant
-/

namespace Recordwise

/-! ## §1. Zones. -/

/-- Whether an offset is shorter than a day. -/
def Zone.isOffset (offset : Int) : Bool := -86400 < offset && offset < 86400

/-- Whether changes are in order. -/
def Zone.inOrder : List (Int × Int) → Bool
  | c :: d :: cs => c.1 < d.1 && inOrder (d :: cs)
  | _ => true

/-- A time zone. -/
structure Zone where
  /-- The name. -/
  name : String
  /-- The offset in seconds east of UTC before the first change. -/
  initial : Int
  /-- The instants of change, each with the offset from there on. -/
  changes : List (Int × Int)
  /-- The changes are in order. -/
  ordered : Zone.inOrder changes = true := by decide +kernel
  /-- The offsets are shorter than a day. -/
  bounded : (initial :: changes.map (·.2)).all Zone.isOffset = true := by decide +kernel
  deriving Repr, DecidableEq

namespace Zone

/-- The zone of one fixed offset. -/
def fixed (name : String) (offset : Int) (h : isOffset offset = true) : Zone where
  name := name
  initial := offset
  changes := []
  ordered := rfl
  bounded := by simpa using h

theorem isOffset_zero : isOffset 0 = true := by decide

/-- A zone that keeps universal time. -/
def universal (name : String) : Zone := fixed name 0 isOffset_zero

/-- Coordinated universal time. -/
def utc : Zone := universal "UTC"

/-! ## §2. Offsets and instants. -/

/-- The offset that the changes up to an instant leave. -/
def offsetAfter (offset : Int) : List (Int × Int) → Int → Int
  | [], _ => offset
  | (start, next) :: cs, t => if t < start then offset else offsetAfter next cs t

/-- The offset at an instant. -/
def offsetAt (z : Zone) (t : Int) : Int := offsetAfter z.initial z.changes t

/-- The earliest instant with a local count of seconds, in a span that has an
offset and a start, or in the spans after it. -/
def instantIn? (start? : Option Int) (offset : Int) : List (Int × Int) → Int → Option Int
  | [], l => if start?.all (· ≤ l - offset) then some (l - offset) else none
  | (stop, next) :: cs, l =>
    if start?.all (· ≤ l - offset) && l - offset < stop then some (l - offset)
    else instantIn? (some stop) next cs l

/-- The earliest instant with a local count of seconds; `none` when a change
skips it. -/
def instantOf? (z : Zone) (l : Int) : Option Int := instantIn? none z.initial z.changes l

/-! ## §3. First laws. -/

theorem isOffset_offsetAfter {offset : Int} {cs : List (Int × Int)}
    (h : (offset :: cs.map (·.2)).all isOffset = true) (t : Int) :
    isOffset (offsetAfter offset cs t) = true := by
  induction cs generalizing offset with
  | nil => simpa [offsetAfter] using h
  | cons c cs ih =>
    rw [List.map_cons, List.all_cons, Bool.and_eq_true] at h
    unfold offsetAfter
    split
    · exact h.1
    · exact ih h.2

/-- The offset at an instant is shorter than a day. -/
theorem isOffset_offsetAt (z : Zone) (t : Int) : isOffset (z.offsetAt t) = true :=
  isOffset_offsetAfter z.bounded t

theorem offsetAt_fixed {offset : Int} (h : isOffset offset = true) (name : String) (t : Int) :
    (fixed name offset h).offsetAt t = offset := rfl

theorem instantOf?_fixed {offset : Int} (h : isOffset offset = true) (name : String) (l : Int) :
    (fixed name offset h).instantOf? l = some (l - offset) := rfl

end Zone

end Recordwise
