/-
  Recordwise.Zone.Find
  ────────────────────
  **Finding a zone by its name.**

  Which zones there are and how each of them keeps time is for a database to
  say, and whatever looks a zone up takes the database along.  Names are the
  names of the database, letter case included; only `UTC`, `GMT` and `Z` are
  taken in any case, for coordinated universal time, and no database is asked
  for them.  One database is given here: it knows the zones that are
  tabulated and those of fixed offset in the area `Etc`, which carry their
  offset in their name, counted west of Greenwich.  Main statement:

      ofName_of_meansUtc — the names of universal time denote it, whatever
                           the database
-/
import Recordwise.Failure
import Recordwise.Text.Blank
import Recordwise.Text.CaseMapping
import Recordwise.Zone.Table

namespace Recordwise.Zone

/-! ## §1. Databases. -/

/-- A database of time zones: the zone of a name, if there is one. -/
abbrev Database : Type := String → Option Zone

/-- The names of universal time in the area `Etc`. -/
def etcAliases : List String :=
  ["GMT", "UTC", "UCT", "Universal", "Zulu", "Greenwich", "GMT0", "GMT+0", "GMT-0"]

/-- The zone `h + 1` hours behind universal time. -/
def behind (h : Fin 12) : Zone :=
  fixed ("Etc/GMT+" ++ Nat.repr (h.val + 1)) (-(3600 * (h.val + 1 : Nat))) (by
    revert h; decide)

/-- The zone `h + 1` hours ahead of universal time. -/
def ahead (h : Fin 14) : Zone :=
  fixed ("Etc/GMT-" ++ Nat.repr (h.val + 1)) (3600 * (h.val + 1 : Nat)) (by
    revert h; decide)

/-- The zones of fixed offset, twelve hours to the west and fourteen to the
east. -/
def etcFixed : List Zone := (List.finRange 12).map behind ++ (List.finRange 14).map ahead

/-- The zones whose changes are tabulated, or are none. -/
def described : List Zone :=
  utc :: tabulated ++ etcFixed ++ etcAliases.map fun n => universal ("Etc/" ++ n)

/-- The database of these zones alone. -/
def Database.tabulated : Database := fun name => described.find? (·.name == name)

/-! ## §2. Zones of settings. -/

/-- Whether a name means universal time in any letter case. -/
def meansUtc (name : String) : Bool :=
  let n := Text.asciiUppered name
  n == "UTC" || n == "GMT" || n == "Z"

/-- The zone of a setting in a database, blanks around its name ignored. -/
def ofName (zones : Database) (text : String) : Except Failure Zone :=
  let name := Text.trimmed text
  if meansUtc name then .ok utc
  else match zones name with
  | some z => .ok z
  | none => .error (.configuration ("Unknown time zone: " ++ name) (some "time_zone"))

theorem ofName_of_meansUtc (zones : Database) {text : String}
    (h : meansUtc (Text.trimmed text) = true) : ofName zones text = .ok utc := by
  simp [ofName, h]

end Recordwise.Zone
