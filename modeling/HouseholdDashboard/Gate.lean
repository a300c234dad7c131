/-!
# The gate of requests

Fetches overlap and may finish in any order.  Each gets a ticket when it begins, and
only the holder of the latest ticket may settle: with a value, which is then current,
or without one, which leaves the current value in place.
-/

namespace HouseholdDashboard

/-- The number of a fetch, counted from one. -/
structure Ticket where
  number : Nat
deriving DecidableEq

/-- The latest ticket issued, the latest one settled, and the current value. -/
structure Gate (α : Type u) where
  issued : Nat
  settled : Nat
  current : Option α
deriving DecidableEq

namespace Gate

/-- A gate before its first fetch. -/
def fresh : Gate α := ⟨0, 0, none⟩

/-- The ticket that the next fetch gets. -/
def nextTicket (g : Gate α) : Ticket := ⟨g.issued + 1⟩

/-- The gate after a fetch began, which holds the next ticket. -/
def begin (g : Gate α) : Gate α := { g with issued := g.issued + 1 }

/-- Whether a ticket is the latest. -/
def isLatest (g : Gate α) (t : Ticket) : Bool := t.number = g.issued

/-- Settle a ticket with a value, if it is the latest. -/
def apply (g : Gate α) (t : Ticket) (a : α) : Gate α :=
  if g.isLatest t then { g with settled := t.number, current := some a } else g

/-- Settle a ticket without a value, if it is the latest. -/
def fail (g : Gate α) (t : Ticket) : Gate α :=
  if g.isLatest t then { g with settled := t.number } else g

/-- Whether the latest fetch has not settled. -/
def isPending (g : Gate α) : Bool := g.settled < g.issued

end Gate

end HouseholdDashboard
