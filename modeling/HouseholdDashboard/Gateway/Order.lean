import HouseholdDashboard.Alarm
import HouseholdDashboard.Http.Request
import HouseholdDashboard.Service.Call

/-!
# Orders

What a request asks of the gateway: the path names a resource, the method says what is
to be done with it, and the query or the body gives the particulars.
-/

namespace HouseholdDashboard

/-- What the gateway has on offer. -/
inductive Resource where
  | health
  | timeline
  | overview
  | energy
  | paper
  | view
  | refresh
  | viewport
  | visibility
  | alarm
deriving DecidableEq

namespace Resource

def all : List Resource :=
  [health, timeline, overview, energy, paper, view, refresh, viewport, visibility, alarm]

def path : Resource → String
  | health => "/healthz"
  | timeline => "/timeline"
  | overview => "/overview"
  | energy => "/energy"
  | paper => "/eink"
  | view => "/session/view"
  | refresh => "/session/refresh"
  | viewport => "/session/viewport"
  | visibility => "/session/visibility"
  | alarm => "/alarm"

/-- The resource at a path, which is taken as it is written. -/
def ofPath? (path : String) : Option Resource :=
  all.find? (·.path = path)

end Resource

/-- What is asked of the gateway. -/
inductive Order where
  | health
  | showView
  | call (call : Call)
  /-- A summary for the paper display; what is not given is as usual. -/
  | paper (location : Option String) (hours : Option Nat)
  | alarm (trigger : Millis)
deriving DecidableEq

/-- Why a request is turned away. -/
inductive Refusal where
  | unknownPath
  | wrongMethod
  | badQuery
  | badBody (fault : Http.Request.BodyFault)
deriving DecidableEq

def Refusal.status : Refusal → Nat
  | unknownPath => 404
  | wrongMethod => 405
  | badQuery => 400
  | badBody fault => fault.status

namespace Order

/-- The fields of a query for the paper display. -/
structure PaperFields where
  location : Option String := none
  hours : Option Nat := none
deriving DecidableEq

/-- Take in a field, which must not be repeated if it is a known one. -/
def PaperFields.take? (f : PaperFields) (p : Query.Parameter) : Option PaperFields :=
  match p.1 with
  | "location" => if f.location.isSome then none else some { f with location := some p.2 }
  | "hours" =>
    match (Decimal.unsigned? p.2.toList).filter (· < Nat.pow 2 32) with
    | some hours => if f.hours.isSome then none else some { f with hours := some hours }
    | none => none
  | _ => some f

/-- What a query asks for the paper display. -/
def paper? (query : String) : Option Order :=
  ((Query.formFields query).foldlM PaperFields.take? {}).map fun f => paper f.location f.hours

/-- The change of the view that a request asks for: in its body, or else in its query. -/
def viewChange (r : Http.Request) : ViewChange :=
  match r.document ViewChange.read with
  | .ok change => change
  | .error _ => ViewChange.ofQuery (r.query.getD "")

/-- An order whose particulars are in the body. -/
def ofBody (r : Http.Request) (read : Json.Reader α) (order : α → Order) :
    Except Refusal Order :=
  match r.document read with
  | .ok a => .ok (order a)
  | .error fault => .error (.badBody fault)

/-- What a request to get a resource asks for. -/
def ofGet (r : Http.Request) : Resource → Except Refusal Order
  | .health => .ok health
  | .timeline => .ok (call (.ask .timeline))
  | .overview => .ok (call (.ask .overview))
  | .energy => .ok (call (.ask .energy))
  | .paper =>
    match paper? (r.query.getD "") with
    | some order => .ok order
    | none => .error .badQuery
  | .view => .ok showView
  | _ => .error .wrongMethod

/-- What a request to post to a resource asks for. -/
def ofPost (r : Http.Request) : Resource → Except Refusal Order
  | .view => .ok (call (.setView (viewChange r)))
  | .refresh => .ok (call .refresh)
  | .viewport => ofBody r ViewportAction.read fun action => call (.ask (.viewport action))
  | .visibility => ofBody r VisibilityAction.read fun action => call (.ask (.visibility action))
  | .alarm => ofBody r Alarm.Request.read fun request => alarm request.trigger
  | _ => .error .wrongMethod

/-- What a request asks for; asking for headers alone asks for the same as getting all. -/
def ofRequest (r : Http.Request) : Except Refusal Order :=
  match Resource.ofPath? r.path with
  | none => .error .unknownPath
  | some resource =>
    match r.method with
    | .get | .head => ofGet r resource
    | .post => ofPost r resource
    | .other _ => .error .wrongMethod

end Order

end HouseholdDashboard
