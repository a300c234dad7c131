import HouseholdDashboard.Service.Call
import HouseholdDashboard.Service.Outside

/-!
# Calls one after the other

A call that has the session to itself runs all its sections in a row.
-/

namespace HouseholdDashboard

namespace Stage

/-- Run a call from a stage to its end. -/
def run (out : Outside σ) (session : Session) (world : σ) (stage : Stage) :
    Session × Run σ Answer :=
  match stage with
  | done result => (session, .still world result)
  | crashed fault => (session, .crash world fault)
  | fetching goal ticket since =>
    let (outcome, world) := out.fetch since world
    (run out session world (settle goal ticket outcome)).map id
      (·.after (.ofResult (.dashboard since) outcome))
  | look question =>
    let s := (look question).step (out.now world) session
    run out s.1 world s.2
  | change c =>
    let s := (change c).step (out.now world) session
    run out s.1 world s.2
  | begin goal =>
    let s := (begin goal).step (out.now world) session
    run out s.1 world s.2
  | settle goal ticket outcome =>
    let s := (settle goal ticket outcome).step (out.now world) session
    run out s.1 world s.2
  | answer question =>
    let s := (answer question).step (out.now world) session
    run out s.1 world s.2
termination_by stage.rank
decreasing_by
  all_goals first
    | exact rank_step_lt _ _ _ rfl (by simp)
    | simp [rank]

end Stage

/-- Make a call while nobody else does. -/
def Call.run (out : Outside σ) (session : Session) (world : σ) (call : Call) :
    Session × Run σ Answer :=
  (Stage.ofCall call).run out session world

end HouseholdDashboard
