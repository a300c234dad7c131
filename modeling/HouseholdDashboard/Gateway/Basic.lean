import HouseholdDashboard.Gateway.Order
import HouseholdDashboard.Http.Encoding
import HouseholdDashboard.Http.Response
import HouseholdDashboard.Service.Errand
import HouseholdDashboard.Service.Run

/-!
# The gateway

The gateway takes requests and sends responses.  What fails for bad data is reported as
status 422, and what fails for any other reason as status 502; both come with the whole
text of the failure.
-/

namespace HouseholdDashboard

/-- A session, and what else the gateway is set up with. -/
structure Gateway where
  session : Session
  alarmZone : Zone
  /-- The location of the paper display, where a request names none. -/
  location : String

/-- What is left after a request: the gateway, the world, the outbound calls, and a response
unless the arithmetic had no result. -/
structure Served (σ : Type) where
  gateway : Gateway
  world : σ
  attempts : List Attempt
  response : Except ArithmeticFault Http.Response

namespace Gateway

/-- The status that reports a failure. -/
def failureStatus (f : Failure) : Nat := if f.isData then 422 else 502

/-- The response that reports what became of a request. -/
def respond (compressed : Bool) : Except Failure Json → Http.Response
  | .ok value => .json 200 value compressed
  | .error failure =>
    .json (failureStatus failure) (.object [("error", .string failure.message)]) compressed

/-- A view as it is shown, with the query in which it is to be kept. -/
def viewJson (view : View) (query : Option String) : Json :=
  .object [("view", view.toJson), ("query", .string (view.persist (query.getD "")))]

/-- The answer to a call as it is shown. -/
def answerJson (query : Option String) : Answer → Json
  | .view view => viewJson view query
  | answer => answer.toJson

/-- The gateway after something was done with its session. -/
def finish (g : Gateway) (compressed : Bool) (session : Session) (r : Run σ Json) : Served σ :=
  ⟨{ g with session }, r.world, r.attempts, r.result.map (respond compressed)⟩

/-- Do what a request asks for. -/
def perform (g : Gateway) (out : Outside σ) (world : σ) (r : Http.Request) (order : Order) :
    Served σ :=
  let compressed := r.headers.acceptsBrotli
  match order with
  | .health => ⟨g, world, [], .ok ⟨200, .plain "ok", false, false⟩⟩
  | .showView =>
    g.finish compressed g.session (.still world (.ok (viewJson g.session.view r.query)))
  | .call call =>
    let (session, run) := call.run out g.session world
    g.finish compressed session (run.map (answerJson r.query))
  | .paper location hours =>
    let usual : View := {}
    let run := PaperSummary.fetch out g.session.zone (location.getD g.location)
      (hours.getD usual.hours) world
    g.finish compressed g.session (run.map PaperSummary.toJson)
  | .alarm trigger =>
    let run := Alarm.forward out g.alarmZone trigger world
    g.finish compressed g.session (run.map Alarm.Delivery.toJson)

/-- Serve a request. -/
def serve (g : Gateway) (out : Outside σ) (world : σ) (r : Http.Request) : Served σ :=
  match Order.ofRequest r with
  | .error refusal => ⟨g, world, [], .ok (.empty refusal.status)⟩
  | .ok order =>
    let served := g.perform out world r order
    { served with
      response := served.response.map fun response =>
        { response with headersOnly := r.method = .head } }

end Gateway

end HouseholdDashboard
