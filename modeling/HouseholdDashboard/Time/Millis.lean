import HouseholdDashboard.Number.Binary64

/-!
# Millisecond counts

Times on the chart are 64-bit counts of milliseconds since the start of 1970 in
UTC.  Arithmetic on them either saturates at the ends of that range or is checked
and may have no result; which of the two it is always shows in the name.
-/

namespace HouseholdDashboard

/-- A 64-bit count of milliseconds since the start of 1970 in UTC. -/
structure Millis where
  count : Int
  lower : -9223372036854775808 ≤ count
  upper : count ≤ 9223372036854775807
deriving DecidableEq

namespace Millis

@[ext] theorem ext {a b : Millis} (h : a.count = b.count) : a = b := by
  cases a; cases b; cases h; rfl

/-- The count, if it fits into 64 bits. -/
def ofInt? (n : Int) : Option Millis :=
  if h : -9223372036854775808 ≤ n ∧ n ≤ 9223372036854775807 then some ⟨n, h.1, h.2⟩ else none

/-- The nearest count that fits into 64 bits. -/
def saturate (n : Int) : Millis :=
  ⟨max (-9223372036854775808) (min n 9223372036854775807), by omega, by omega⟩

/-- The start of 1970. -/
def zero : Millis := ⟨0, by decide, by decide⟩

instance : Inhabited Millis := ⟨zero⟩

instance : LE Millis := ⟨fun a b => a.count ≤ b.count⟩

instance : LT Millis := ⟨fun a b => a.count < b.count⟩

instance (a b : Millis) : Decidable (a ≤ b) := inferInstanceAs (Decidable (a.count ≤ b.count))

instance (a b : Millis) : Decidable (a < b) := inferInstanceAs (Decidable (a.count < b.count))

instance : Min Millis := ⟨fun a b => if a ≤ b then a else b⟩

instance : Max Millis := ⟨fun a b => if a ≤ b then b else a⟩

theorem le_iff {a b : Millis} : a ≤ b ↔ a.count ≤ b.count := Iff.rfl

theorem lt_iff {a b : Millis} : a < b ↔ a.count < b.count := Iff.rfl

/-! ## Arithmetic that has no result outside the range -/

def add? (a : Millis) (n : Int) : Option Millis := ofInt? (a.count + n)

def sub? (a : Millis) (n : Int) : Option Millis := ofInt? (a.count - n)

/-! ## Arithmetic that stops at the ends of the range -/

def addSaturating (a b : Millis) : Millis := saturate (a.count + b.count)

def subSaturating (a b : Millis) : Millis := saturate (a.count - b.count)

/-! ## To and from binary64 -/

/-- The nearest binary64 number. -/
def toBinary64 (m : Millis) : Binary64 := .ofInt m.count

/--
The count that a number is cut to: its integer part, at most what 64 bits hold,
and zero for what is not a number.
-/
def ofBinary64 : Binary64 → Millis
  | .nan => zero
  | .infinite negative => saturate (if negative then -9223372036854775808 else 9223372036854775807)
  | .finite x => saturate (Binary64.truncate x)

theorem ofInt?_eq_some_iff {n : Int} {m : Millis} : ofInt? n = some m ↔ m.count = n := by
  unfold ofInt?
  split
  · constructor
    · intro h; cases h; rfl
    · intro h; subst h; rfl
  · rename_i out
    constructor
    · intro h; cases h
    · intro h; subst h; exact absurd ⟨m.lower, m.upper⟩ out

theorem saturate_of_inRange {n : Int} (low : -9223372036854775808 ≤ n)
    (high : n ≤ 9223372036854775807) : (saturate n).count = n := by
  simp only [saturate]; omega

end Millis

end HouseholdDashboard
