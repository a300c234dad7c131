import HouseholdDashboard.Backend.Query
import HouseholdDashboard.Backend.Reply
import HouseholdDashboard.Failure

/-!
# Fetching from the backend

A fetch puts one question to the backend and makes a snapshot of the reply.  It fails
if there is no reply, if the reply reports no success, cannot be read, reports an error
or has no data, and then if a time of the solar history cannot be read.
-/

namespace HouseholdDashboard.Backend

/-- The document of a reply; bytes that are no text have none. -/
def document (body : List UInt8) : Json.Draft :=
  match Text.ofBytes? body with
  | some text => .ofWholeText text
  | none => .broken

/-- The data of a reply. -/
def dataOf (read : Json.Reader α) (reply : Option Http.Reply) : Except Fault α := do
  let some reply := reply | throw .unreachable
  if !Http.Status.isSuccess reply.status then
    throw (.refused reply.status (Text.ofBytesLossy reply.body))
  match Payload.read read (document reply.body) with
  | .error _ => throw .unreadable
  | .ok payload =>
    match payload.errors with
    | message :: _ => throw (.reported message)
    | [] =>
      match payload.data with
      | some data => return data
      | none => throw .empty

/-- What is made of the data of a reply. -/
def madeOf (read : Json.Reader α) (make : α → Except DataFault β) (reply : Option Http.Reply) :
    Except Failure β :=
  match dataOf read reply with
  | .error fault => .error (.ofCause (.backend fault))
  | .ok data => (make data).mapError Failure.ofFault

/-- The snapshot for the dashboard that a reply gives. -/
def snapshotOf : Option Http.Reply → Except Failure Snapshot :=
  madeOf DashboardData.read DashboardData.snapshot

/-- The snapshot for the paper display that a reply gives. -/
def paperOf : Option Http.Reply → Except Failure PaperSnapshot :=
  madeOf PaperData.read PaperData.snapshot

namespace Endpoint

/-- Fetch for the dashboard. -/
def fetch (e : Endpoint) (carry : Http.Carrier σ) (since : Instant) (world : σ) :
    Except Failure Snapshot × σ :=
  ((e.post (.dashboard since)).exchange carry world).map snapshotOf id

/-- Fetch for the paper display. -/
def fetchPaper (e : Endpoint) (carry : Http.Carrier σ) (since : Instant) (location : String)
    (world : σ) : Except Failure PaperSnapshot × σ :=
  ((e.post (.paper since location)).exchange carry world).map paperOf id

end Endpoint

end HouseholdDashboard.Backend
