import HouseholdDashboard.Failure
import HouseholdDashboard.Snapshot

/-!
# The outside world

What lies outside of the gateway: a clock, the backend and the house that takes
alarms.  The world has a state of its own, so that it may answer differently each time.
-/

namespace HouseholdDashboard

/-- How the world answers, and what that makes of it. -/
structure Outside (σ : Type) where
  now : σ → Instant
  /-- Fetch for the dashboard everything since an instant. -/
  fetch : Instant → σ → Except Failure Snapshot × σ
  /-- Fetch for the paper display at a location. -/
  fetchPaper : Instant → String → σ → Except Failure PaperSnapshot × σ
  /-- Send a local time to the house. -/
  sendAlarm : String → σ → Except Failure Nat × σ

/-- A call to the outside. -/
inductive Outbound where
  | dashboard (since : Instant)
  | paper (since : Instant) (location : String)
  | alarm (localTime : String)
deriving DecidableEq

/-- An outbound call that was made, and whether it succeeded. -/
structure Attempt where
  call : Outbound
  succeeded : Bool
deriving DecidableEq

def Attempt.ofResult (call : Outbound) (result : Except Failure α) : Attempt :=
  ⟨call, result.toBool⟩

/-- What came of something that was done: the world afterwards, the outbound calls in their
order, and a result unless the arithmetic had none. -/
structure Run (σ α : Type) where
  world : σ
  attempts : List Attempt
  result : Except ArithmeticFault (Except Failure α)

namespace Run

/-- A result without any outbound call. -/
def still (world : σ) (result : Except Failure α) : Run σ α := ⟨world, [], .ok result⟩

/-- A run that ends because the arithmetic has no result. -/
def crash (world : σ) (fault : ArithmeticFault) : Run σ α := ⟨world, [], .error fault⟩

/-- A run that began with an outbound call. -/
def after (attempt : Attempt) (r : Run σ α) : Run σ α :=
  { r with attempts := attempt :: r.attempts }

/-- A run with its answer put into another form. -/
def map (f : α → β) (r : Run σ α) : Run σ β :=
  ⟨r.world, r.attempts, r.result.map (·.map f)⟩

end Run

end HouseholdDashboard
