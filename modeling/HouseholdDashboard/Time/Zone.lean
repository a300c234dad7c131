import HouseholdDashboard.Time.Instant

/-!
# Time zones

A zone says how far local clocks are from UTC: an offset that holds from the
beginning of time, and changes, each of which holds from its own second until
the next.  The last one holds for ever.
-/

namespace HouseholdDashboard

/-- From this second on, local time is `offset` seconds ahead of UTC. -/
structure Zone.Change where
  second : Int
  offset : Int
deriving DecidableEq

/-- A zone's name and its offsets, which stay within a day of UTC. -/
structure Zone where
  name : String
  first : Int
  changes : List Zone.Change
  first_lt : first.natAbs < 86400
  changes_lt : ∀ c ∈ changes, c.offset.natAbs < 86400
deriving DecidableEq

namespace Zone

/-- Coordinated universal time. -/
def utc : Zone := ⟨"UTC", 0, [], by decide, by simp⟩

/-- The zone with these offsets, if they stay within a day of UTC. -/
def ofChanges? (name : String) (first : Int) (changes : List Change) : Option Zone :=
  if h : first.natAbs < 86400 ∧ ∀ c ∈ changes, c.offset.natAbs < 86400 then
    some ⟨name, first, changes, h.1, h.2⟩
  else none

/-- The offset in force at a second since the start of 1970 in UTC. -/
def offsetAt (zone : Zone) (second : Int) : Int :=
  zone.changes.foldl (fun offset c => if c.second ≤ second then c.offset else offset) zone.first

end Zone

/-- A moment as a zone's clocks and calendars show it. -/
structure LocalTime where
  date : Date
  secondOfDay : Nat
  offset : Int
deriving DecidableEq

namespace LocalTime

def hour (t : LocalTime) : Nat := t.secondOfDay / 3600

def minute (t : LocalTime) : Nat := t.secondOfDay / 60 % 60

def second (t : LocalTime) : Nat := t.secondOfDay % 60

end LocalTime

/-- What a zone's clocks show at an instant, a leap second counting with the one before it. -/
def Zone.localTime (zone : Zone) (t : Instant) : LocalTime :=
  let offset := zone.offsetAt t.seconds
  let shown := t.seconds + offset
  ⟨Date.ofDays (shown / 86400), (shown % 86400).toNat, offset⟩

end HouseholdDashboard
