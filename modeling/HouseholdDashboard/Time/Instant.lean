import HouseholdDashboard.Time.Calendar
import HouseholdDashboard.Time.Millis

/-!
# Instants

An instant is a second of UTC with a fraction of nanoseconds, within the years
from -262143 to 262142.  Fractions from one second on are the leap second that
follows the last second of a minute; it shares that second's number.
-/

namespace HouseholdDashboard

/-- A second since the start of 1970 in UTC, and nanoseconds within it. -/
structure Instant where
  seconds : Int
  nanos : Nat
  first_le : -8334601228800 ≤ seconds
  le_last : seconds ≤ 8210266876799
  nanos_lt : nanos < 2000000000
deriving DecidableEq

namespace Instant

/-- The instant with these parts, if the calendar reaches it. -/
def ofParts? (seconds : Int) (nanos : Nat) : Option Instant :=
  if h : -8334601228800 ≤ seconds ∧ seconds ≤ 8210266876799 ∧ nanos < 2000000000 then
    some ⟨seconds, nanos, h.1, h.2.1, h.2.2⟩
  else none

/-- The instant of a millisecond count, if the calendar reaches it. -/
def ofMillis? (count : Int) : Option Instant :=
  ofParts? (count / 1000) ((count % 1000).toNat * 1000000)

/-- Milliseconds since the start of 1970, rounded down. -/
def toMillis (t : Instant) : Millis :=
  ⟨t.seconds * 1000 + (t.nanos / 1000000 : Nat),
    by have := t.first_le; omega,
    by have := t.le_last; have := t.nanos_lt; omega⟩

/-- The instant some hours earlier, if the calendar reaches it; a leap second runs on first. -/
def subHours? (t : Instant) (hours : Nat) : Option Instant :=
  if hours ≠ 0 ∧ 1000000000 ≤ t.nanos then
    ofParts? (t.seconds + 1 - hours * 3600) (t.nanos - 1000000000)
  else ofParts? (t.seconds - hours * 3600) t.nanos

theorem parts_of_ofParts? {seconds : Int} {nanos : Nat} {t : Instant}
    (h : ofParts? seconds nanos = some t) : t.seconds = seconds ∧ t.nanos = nanos := by
  unfold ofParts? at h
  split at h
  · cases h
    exact ⟨rfl, rfl⟩
  · cases h

/-- Different numbers of hours lead back to different instants, leap seconds included. -/
theorem eq_of_subHours? {t earlier : Instant} {m n : Nat} (first : t.subHours? m = some earlier)
    (second : t.subHours? n = some earlier) : m = n := by
  unfold subHours? at first second
  split at first <;> split at second
  all_goals
    have back := parts_of_ofParts? first
    have back' := parts_of_ofParts? second
    omega

/-- An instant that a whole number of milliseconds reaches is read back. -/
theorem toMillis_of_ofMillis? {count : Int} {t : Instant} (h : ofMillis? count = some t) :
    t.toMillis.count = count := by
  unfold ofMillis? ofParts? at h
  split at h
  · cases h; simp only [toMillis]; omega
  · cases h

/-- Exactly the counts from the calendar's first to its last millisecond have an instant. -/
theorem ofMillis?_isSome_iff {count : Int} :
    (ofMillis? count).isSome ↔ -8334601228800000 ≤ count ∧ count ≤ 8210266876799999 := by
  unfold ofMillis? ofParts?
  split <;> simp <;> omega

theorem ofMillis?_eq_none_iff {count : Int} :
    ofMillis? count = none ↔ ¬(-8334601228800000 ≤ count ∧ count ≤ 8210266876799999) := by
  rw [← ofMillis?_isSome_iff, Option.not_isSome_iff_eq_none]

end Instant

end HouseholdDashboard
