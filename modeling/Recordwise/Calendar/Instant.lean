/-
  Recordwise.Calendar.Instant
  ───────────────────────────
  **Instants, read on the clocks of a zone.**

  An instant is a count of seconds from 1970-01-01 00:00:00 UTC together with
  the zone whose clocks show it.  Counts, and the local times shown, lie
  within the calendar's range of years, -262143 to 262142; an instant near
  either end may have a local time outside it, which is then not shown.  Main
  statements:

      ofSeconds?_eq_some — an accepted count is kept as it is
      ofLocal?_eq_some   — an accepted local time gives an instant that the
                           zone maps to it
-/
import Recordwise.Calendar.LocalTime
import Recordwise.Zone.Basic

namespace Recordwise.Calendar

/-! ## §1. The range of the calendar. -/

/-- The first second of the calendar's range. -/
def earliest : Int := -8334601228800

/-- The last second of the calendar's range. -/
def latest : Int := 8210266876799

/-- Whether a count of seconds lies in the calendar's range. -/
def isRepresentable (s : Int) : Bool := earliest ≤ s && s ≤ latest

/-! ## §2. Instants. -/

/-- An instant and the zone whose clocks show it. -/
structure Instant where
  /-- The seconds from 1970-01-01 00:00:00 UTC. -/
  seconds : Int
  /-- The zone whose clocks show the instant. -/
  zone : Zone
  deriving Repr, DecidableEq

namespace Instant

/-- The instant of a count of seconds in the calendar's range. -/
def ofSeconds? (s : Int) (zone : Zone) : Option Instant :=
  if isRepresentable s then some ⟨s, zone⟩ else none

/-- The earliest instant at which the clocks of a zone show a local time;
`none` when they skip it. -/
def ofLocal? (t : LocalTime) (zone : Zone) : Option Instant :=
  (zone.instantOf? t.seconds).bind fun s => ofSeconds? s zone

/-- What the clocks of the zone show, within the calendar's range. -/
def local? (i : Instant) : Option LocalTime :=
  let l := i.seconds + i.zone.offsetAt i.seconds
  if isRepresentable l then some (LocalTime.ofSeconds l) else none

/-- How a skipped local time is reported. -/
def skippedMessage (t : LocalTime) (zone : Zone) : String :=
  "local time " ++ String.ofList t.text ++ " does not exist in zone " ++ zone.name

theorem ofSeconds?_eq_some {s : Int} {zone : Zone} {i : Instant} (h : ofSeconds? s zone = some i) :
    i.seconds = s ∧ i.zone = zone := by
  unfold ofSeconds? at h
  split at h
  · cases h; exact ⟨rfl, rfl⟩
  · cases h

theorem ofLocal?_eq_some {t : LocalTime} {zone : Zone} {i : Instant}
    (h : ofLocal? t zone = some i) : zone.instantOf? t.seconds = some i.seconds := by
  obtain ⟨s, hs, hi⟩ := Option.bind_eq_some_iff.1 h
  rw [hs, (ofSeconds?_eq_some hi).1]

end Instant

end Recordwise.Calendar
