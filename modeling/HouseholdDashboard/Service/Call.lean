import HouseholdDashboard.Failure
import HouseholdDashboard.Session.Basic

/-!
# Calls on the session

Many callers share one session.  A call looks at the session or changes it in short
sections, each of which has the session to itself; between two sections other calls
may have theirs.  While a fetch is under way the session is free.

A stage says where a call stands.  `Stage.step` runs the next section of a call, and
`Stage.receive` takes what a fetch brings.
-/

namespace HouseholdDashboard

/-- A question about the latest snapshot; some also change how it is looked at. -/
inductive Question where
  | timeline
  | viewport (action : ViewportAction)
  | visibility (action : VisibilityAction)
  | energy
  | overview
deriving DecidableEq

/-- What a caller may want. -/
inductive Call where
  /-- To fetch anew. -/
  | refresh
  /-- To change the view. -/
  | setView (change : ViewChange)
  | ask (question : Question)
deriving DecidableEq

/-- What a call returns. -/
inductive Answer where
  /-- Whether what was fetched is now the latest snapshot. -/
  | refreshed (taken : Bool)
  | view (view : View)
  | timeline (timeline : Timeline)
  | energy (report : EnergyReport)
  | overview (cards : List RoomCard)
deriving DecidableEq

namespace Answer

/-- An answer as a document, but for a view, which is shown with the query it came with. -/
def toJson : Answer → Json
  | refreshed taken => .object [("applied", .bool taken)]
  | view v => v.toJson
  | timeline t => t.toJson
  | energy report => report.toJson
  | overview cards => RoomCard.overviewJson cards

end Answer

namespace Question

/-- Answer a question from the session. -/
def answer (q : Question) (s : Session) (now : Instant) : Session × Except Halt Answer :=
  match q with
  | timeline => (s.timeline now).map id (·.map Answer.timeline)
  | viewport action => (s.applyViewport action now).map id (·.map Answer.timeline)
  | visibility action => (s.applyVisibility action now).map id (·.map Answer.timeline)
  | energy => (s, (s.energy.mapError Halt.data).map Answer.energy)
  | overview => (s, .ok (.overview s.overview))

end Question

/-- What a call is to do once its fetch has settled. -/
inductive Goal where
  /-- Report whether the snapshot was taken. -/
  | report
  /-- Return the view that was set. -/
  | view (view : View)
  | ask (question : Question)
deriving DecidableEq

/-- Where a call stands. -/
inductive Stage where
  /-- About to see whether there is a snapshot at all. -/
  | look (question : Question)
  /-- About to change the view. -/
  | change (change : ViewChange)
  /-- About to begin a fetch. -/
  | begin (goal : Goal)
  /-- Waiting for the backend. -/
  | fetching (goal : Goal) (ticket : Ticket) (since : Instant)
  /-- About to hand in what was fetched. -/
  | settle (goal : Goal) (ticket : Ticket) (outcome : Except Failure Snapshot)
  /-- About to answer a question. -/
  | answer (question : Question)
  | done (result : Except Failure Answer)
  | crashed (fault : ArithmeticFault)

namespace Stage

/-- Where a call begins. -/
def ofCall : Call → Stage
  | .refresh => begin .report
  | .setView c => change c
  | .ask question => look question

/-- What was being done when a fetch for the dashboard failed. -/
def fetchingText : String := "Failed to fetch dashboard data"

/-- Change the view of a session; the flag says whether its hours are new. -/
def changeView (s : Session) (c : ViewChange) : Session × Bool :=
  let s := match c.tab with
    | some tab => s.setTab tab
    | none => s
  match c.hours with
  | some hours => s.setHours hours
  | none => (s, false)

/-- Where a call stands after its fetch has settled. -/
def next (goal : Goal) (taken : Bool) : Stage :=
  match goal with
  | .report => .done (.ok (.refreshed taken))
  | .view v => .done (.ok (.view v))
  | .ask question => .answer question

/-- The next section of a call; one that waits or is at its end has none. -/
def step (now : Instant) (s : Session) : Stage → Session × Stage
  | look question => (s, if s.hasSnapshot then answer question else begin (.ask question))
  | change c =>
    let (s, isNew) := changeView s c
    (s, if isNew then begin (.view s.view) else done (.ok (.view s.view)))
  | begin goal =>
    match s.beginRefresh now with
    | .ok (s, ticket, since) => (s, fetching goal ticket since)
    -- the ticket is gone even so: nothing will ever settle it
    | .error fault => ({ s with gate := s.gate.begin }, crashed fault)
  | settle goal ticket (.ok snapshot) =>
    let (s, taken) := s.finishRefresh ticket snapshot
    (s, next goal taken)
  | settle _ ticket (.error failure) =>
    ((s.failRefresh ticket).1, done (.error (failure.within fetchingText)))
  | answer question =>
    match question.answer s now with
    | (s, .ok a) => (s, done (.ok a))
    | (s, .error (.data fault)) => (s, done (.error (.ofFault fault)))
    | (s, .error (.arithmetic fault)) => (s, crashed fault)
  | stage => (s, stage)

/-- What a call does with what its fetch brings. -/
def receive (outcome : Except Failure Snapshot) : Stage → Stage
  | fetching goal ticket _ => settle goal ticket outcome
  | stage => stage

/-- Whether a call has reached its end. -/
def isOver : Stage → Bool
  | done _ | crashed _ => true
  | _ => false

/-- An upper bound for the sections and fetches to come. -/
def rank : Stage → Nat
  | look _ => 5
  | change _ => 5
  | begin _ => 4
  | fetching .. => 3
  | settle .. => 2
  | answer _ => 1
  | done _ => 0
  | crashed _ => 0

theorem rank_next_lt (goal : Goal) (taken : Bool) : (next goal taken).rank < 2 := by
  cases goal <;> simp [next, rank]

/-- Every section brings a call nearer to its end. -/
theorem rank_step_lt (now : Instant) (s : Session) (stage : Stage) (going : stage.isOver = false)
    (free : ∀ goal ticket since, stage ≠ fetching goal ticket since) :
    (stage.step now s).2.rank < stage.rank := by
  cases stage with
  | look question => simp only [step]; split <;> simp [rank]
  | change c => simp only [step]; split <;> simp [rank]
  | begin goal => simp only [step]; split <;> simp [rank]
  | fetching goal ticket since => exact absurd rfl (free goal ticket since)
  | settle goal ticket outcome =>
    cases outcome with
    | ok snapshot => exact rank_next_lt ..
    | error failure => simp [step, rank]
  | answer question => simp only [step]; split <;> simp [rank]
  | done result => simp [isOver] at going
  | crashed fault => simp [isOver] at going

end Stage

end HouseholdDashboard
