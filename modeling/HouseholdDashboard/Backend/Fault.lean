import HouseholdDashboard.Http.Status

/-!
# Faults of the backend

Why asking the backend gives nothing, before the data itself is looked at.
-/

namespace HouseholdDashboard.Backend

inductive Fault where
  /-- There was no reply. -/
  | unreachable
  /-- The reply reports no success; what it says stands in its body. -/
  | refused (status : Nat) (body : String)
  /-- The reply is not of the agreed shape. -/
  | unreadable
  /-- The reply reports an error. -/
  | reported (message : String)
  /-- The reply reports no error and has no data. -/
  | empty
deriving DecidableEq

namespace Fault

def message : Fault → String
  | unreachable => "Failed to send request to GraphQL endpoint"
  | refused status body => s!"GraphQL request failed with status {Http.Status.shown status}: {body}"
  | unreadable => "Failed to parse GraphQL response"
  | reported message => s!"GraphQL query error: {message}"
  | empty => "GraphQL response contained no data"

end Fault

end HouseholdDashboard.Backend
