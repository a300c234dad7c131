import HouseholdDashboard.Failure
import HouseholdDashboard.Http.Outgoing
import HouseholdDashboard.Json.Reader
import HouseholdDashboard.Time.Display

/-!
# Alarms

When the next alarm of a phone changes, its time is passed on to the house as local
time of the alarm's zone.  It is sent once; an answer that is no success is reported
and not repeated.
-/

namespace HouseholdDashboard

namespace Alarm

/-- The text of an alarm's local time, with the zone's offset. -/
def localTimeText (zone : Zone) (t : Millis) : Except Failure String :=
  match Display.local? zone t with
  | some shown => .ok (String.ofList (Rfc3339.localText shown))
  | none => .error (.ofCause (.alarmTime t.count))

/-- What is sent to the house. -/
def payload (localTime : String) : Json :=
  .object [("local_time", .string localTime)]

/-- An alarm that is to be passed on. -/
structure Request where
  trigger : Millis
deriving DecidableEq

open Json.Reader in
def Request.read : Json.Reader Request := fun d => do
  let step (s : Option Millis) (name : String) (d : Json.Draft) :
      Except Json.Misread (Option Millis) :=
    match name with
    | "trigger_time_ms" => once s millis d
    | _ => do skip d; return s
  let (s, _) ← slots ["trigger_time_ms"] step none d
  return ⟨← required s⟩

/-- What became of an alarm. -/
structure Delivery where
  localTime : String
  status : Nat
deriving DecidableEq

namespace Delivery

/-- Whether the house took the alarm. -/
def delivered (d : Delivery) : Bool := 200 ≤ d.status && d.status < 300

def toJson (d : Delivery) : Json :=
  .object [
    ("local_time", .string d.localTime),
    ("status", .nat d.status),
    ("delivered", .bool d.delivered)]

end Delivery

/-- Where the house takes alarms, and the secret that it asks for. -/
structure Webhook where
  url : String
  secret : String
deriving DecidableEq

namespace Webhook

/-- The call that passes a local time on. -/
def post (w : Webhook) (localTime : String) : Http.Post where
  url := w.url
  headers := [("x-webhook-secret", w.secret), ("content-type", "application/json")]
  body := payload localTime

/-- The status that a reply has; none if there is no reply. -/
def statusOf (reply : Option Http.Reply) : Except Failure Nat :=
  match reply with
  | some reply => .ok reply.status
  | none => .error (.ofCause .webhook)

/-- Send a local time to the house. -/
def send (w : Webhook) (carry : Http.Carrier σ) (localTime : String) (world : σ) :
    Except Failure Nat × σ :=
  ((w.post localTime).exchange carry world).map statusOf id

end Webhook

end Alarm

end HouseholdDashboard
