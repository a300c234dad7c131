import HouseholdDashboard.Chart.Extent
import HouseholdDashboard.Gate
import HouseholdDashboard.Session.Action
import HouseholdDashboard.Session.Timeline
import HouseholdDashboard.Snapshot
import HouseholdDashboard.View

/-!
# The session

The session owns the view, the filters, the zoom and the latest snapshot behind one
dashboard.  Every operation is a function of the session: it returns its answer and
the session afterwards.  An operation that finds bad data changes nothing.  One whose
arithmetic has no result breaks off in the middle, and what it has changed by then
stays changed.
-/

namespace HouseholdDashboard

/-- The state behind one dashboard. -/
structure Session where
  view : View
  visibility : Visibility
  /-- The viewport, once there has been something to look at. -/
  viewport : Option Viewport
  gate : Gate Snapshot
  zone : Zone
  tariff : Tariff
deriving DecidableEq

/-- Why an operation on a session has no answer. -/
inductive Halt where
  /-- The snapshot holds a time that cannot be read. -/
  | data (fault : DataFault)
  /-- The arithmetic has no result. -/
  | arithmetic (fault : ArithmeticFault)
deriving DecidableEq

/-- What is known of the household's energy. -/
structure EnergyReport where
  days : List DayTotal
  totalCost : Float
  totalSolarValue : Float
  solarCurrent : SolarCurrent
deriving DecidableEq

def EnergyReport.toJson (r : EnergyReport) : Json :=
  .object [
    ("days", .array (r.days.map DayTotal.toJson)),
    ("totalCost", .float r.totalCost),
    ("totalSolarValue", .float r.totalSolarValue),
    ("solarCurrent", r.solarCurrent.toJson)]

namespace Session

/-- A session before its first fetch. -/
def fresh (view : View) (zone : Zone) (tariff : Tariff) : Session :=
  ⟨view, {}, none, .fresh, zone, tariff⟩

/-! ## The view -/

def setTab (s : Session) (tab : Tab) : Session :=
  { s with view := { s.view with tab } }

/-- Change the hours; other hours of the menu also clear the filters and the zoom. -/
def setHours (s : Session) (hours : Nat) : Session × Bool :=
  if hours = s.view.hours then (s, false)
  else
    match s.view.withHours? hours with
    | some view => ({ s with view, visibility := {}, viewport := none }, true)
    | none => (s, false)

/-! ## Fetching -/

def hasSnapshot (s : Session) : Bool := s.gate.current.isSome

def isLoading (s : Session) : Bool := s.gate.isPending

/-- Begin a fetch: its ticket and the earliest time to ask for.  Without such a time there is no
result, and the ticket is lost. -/
def beginRefresh (s : Session) (now : Instant) :
    Except ArithmeticFault (Session × Ticket × Instant) :=
  match s.view.since? now with
  | some since => .ok ({ s with gate := s.gate.begin }, s.gate.nextTicket, since)
  | none => .error .calendar

/-- Take over a snapshot, if its fetch is still the latest. -/
def finishRefresh (s : Session) (ticket : Ticket) (snapshot : Snapshot) : Session × Bool :=
  ({ s with gate := s.gate.apply ticket snapshot }, s.gate.isLatest ticket)

/-- Give up a fetch; the last snapshot stays. -/
def failRefresh (s : Session) (ticket : Ticket) : Session × Bool :=
  ({ s with gate := s.gate.fail ticket }, s.gate.isLatest ticket)

/-- The latest snapshot; an empty one before the first. -/
def snapshot (s : Session) : Snapshot := s.gate.current.getD {}

/-! ## The timeline -/

/-- The marks of the latest snapshot. -/
def marks (s : Session) : Except DataFault (List Mark) :=
  Series.ofEvents s.zone s.snapshot.doors s.snapshot.appliances s.snapshot.wifi

/-- The full extent of the latest snapshot. -/
def extent (s : Session) (marks : List Mark) (now : Instant) : Window :=
  Extent.ofTimes (marks.map (·.time)) (s.snapshot.solarHistory.map (·.time)) now.toMillis

/-- The viewport, in line with the extent of the data. -/
def syncedViewport (s : Session) (marks : List Mark) (now : Instant) : Viewport :=
  let full := s.extent marks now
  (s.viewport.getD (.ofExtent full)).setFull full

/-- The timeline of a session whose viewport is in line with the data. -/
def draw (s : Session) (viewport : Viewport) (marks : List Mark) :
    Except ArithmeticFault Timeline :=
  Timeline.draw s.zone viewport s.visibility s.isLoading marks
    (SolarPoint.ofHistory s.zone s.snapshot.solarHistory)

/-- Draw a session with a viewport, which it then has, also if the drawing has no result. -/
def render (s : Session) (viewport : Viewport) (marks : List Mark) :
    Session × Except Halt Timeline :=
  ({ s with viewport := some viewport }, (s.draw viewport marks).mapError Halt.arithmetic)

/-- The timeline at a moment. -/
def timeline (s : Session) (now : Instant) : Session × Except Halt Timeline :=
  match s.marks with
  | .error fault => (s, .error (.data fault))
  | .ok marks => s.render (s.syncedViewport marks now) marks

/-- The timeline after an action on the viewport. -/
def applyViewport (s : Session) (action : ViewportAction) (now : Instant) :
    Session × Except Halt Timeline :=
  match s.marks with
  | .error fault => (s, .error (.data fault))
  | .ok marks =>
    let synced := s.syncedViewport marks now
    match action.apply synced with
    | .error fault =>
      ({ s with viewport := some (action.brokenOff synced) }, .error (.arithmetic fault))
    | .ok viewport => s.render viewport marks

/-- The timeline after an action on what is shown. -/
def applyVisibility (s : Session) (action : VisibilityAction) (now : Instant) :
    Session × Except Halt Timeline :=
  match s.marks with
  | .error fault => (s, .error (.data fault))
  | .ok marks =>
    { s with visibility := action.apply s.visibility marks }.render
      (s.syncedViewport marks now) marks

/-! ## Energy and rooms -/

def energy (s : Session) : Except DataFault EnergyReport := do
  let history := s.snapshot.energyHistory
  let days ← DayTotal.ofSamples s.zone history
  let totalSolarValue ← s.tariff.exportValue s.zone history
  return ⟨days, s.tariff.cost history, totalSolarValue, s.snapshot.solarCurrent⟩

/-- The cards of all rooms. -/
def overview (s : Session) : List RoomCard :=
  s.snapshot.rooms.map RoomCard.ofRoom

end Session

/-- The cards of all rooms as a document. -/
def RoomCard.overviewJson (cards : List RoomCard) : Json :=
  .object [("environment", .array (cards.map RoomCard.toJson))]

end HouseholdDashboard
