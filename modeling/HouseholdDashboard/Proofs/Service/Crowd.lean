import HouseholdDashboard.Proofs.Gate.History
import HouseholdDashboard.Proofs.Session.Frame

/-!
# Many callers of one session

A crowd is a session and the calls that share it, however many there are.  It moves when a call
comes in, when some call has its next section, and when the backend replies to some fetch, in any
order at all.  A crowd also keeps records that no call ever reads: the fetches, the replies, and
the history of the gate, each with the latest first.

`move_step` lists everything that a move can do.  The invariants are derived from that list alone.
-/

namespace HouseholdDashboard

/-- A fetch as it was begun. -/
structure Fetch where
  ticket : Ticket
  /-- The moment at which it began. -/
  moment : Instant
  /-- The hours that the view had at that moment. -/
  hours : Nat
  /-- The earliest time that was asked for, if the calendar reaches it. -/
  since : Option Instant
deriving DecidableEq

namespace Stage

/-- The ticket that a call holds. -/
def ticket? : Stage → Option Ticket
  | fetching _ t _ => some t
  | settle _ t _ => some t
  | _ => none

/-- The earliest time that a call has asked for. -/
def since? : Stage → Option Instant
  | fetching _ _ since => some since
  | _ => none

/-- What a call asks of the gate in its next section. -/
def request? : Stage → Option (Gate.Request Snapshot)
  | begin _ => some .begin
  | settle _ t (.ok snapshot) => some (.apply t snapshot)
  | settle _ t (.error _) => some (.fail t)
  | _ => none

/-- The fetch that a section begins, given where it leads to. -/
def fetch? (stage : Stage) (now : Instant) (s : Session) (next : Stage) : Option Fetch :=
  match stage with
  | begin _ => some ⟨s.gate.nextTicket, now, s.view.hours, next.since?⟩
  | _ => none

/-- Whether a call is about to begin a fetch. -/
def isBegin : Stage → Bool
  | begin _ => true
  | _ => false

/-- Whether a call has returned. -/
def isDone : Stage → Bool
  | done _ => true
  | _ => false

/-- Whether a call has ended without a result. -/
def isCrashed : Stage → Bool
  | crashed _ => true
  | _ => false

theorem isOver_of_done {stage : Stage} (done : stage.isDone = true) : stage.isOver = true := by
  cases stage <;> first | rfl | cases done

theorem isCrashed_of_done {stage : Stage} (done : stage.isDone = true) :
    stage.isCrashed = false := by
  cases stage <;> first | rfl | cases done

theorem ticket_of_over {stage : Stage} (ended : stage.isOver = true) : stage.ticket? = none := by
  cases stage <;> first | rfl | cases ended

theorem isBegin_of_over {stage : Stage} (ended : stage.isOver = true) : stage.isBegin = false := by
  cases stage <;> first | rfl | cases ended

/-- Where a call stands after it has changed the view of a session. -/
def changed (s : Session) (isNew : Bool) : Stage :=
  if isNew then begin (.view s.view) else done (.ok (.view s.view))

end Stage

/-- A session, where each of its calls stands, and the records. -/
structure Crowd where
  session : Session
  stages : List Stage
  fetches : List Fetch
  replies : List (Ticket × Except Failure Snapshot)
  history : List (Gate.Entry Snapshot)

/-- What may happen next. -/
inductive Move where
  /-- A call comes in. -/
  | join (call : Call)
  /-- A call has its next section, at a moment. -/
  | turn (i : Nat) (now : Instant)
  /-- The backend replies to the fetch of a call. -/
  | reply (i : Nat) (outcome : Except Failure Snapshot)

namespace Crowd

/-- A session that nobody has called yet. -/
def ofSession (session : Session) : Crowd := ⟨session, [], [], [], []⟩

/-- The next section of a call. -/
def turn (c : Crowd) (i : Nat) (now : Instant) : Crowd :=
  match c.stages[i]? with
  | none => c
  | some stage =>
    let turned := stage.step now c.session
    { session := turned.1
      stages := c.stages.set i turned.2
      fetches := (stage.fetch? now c.session turned.2).toList ++ c.fetches
      replies := c.replies
      history := (stage.request?.map fun r => (c.session.gate.meet r).2).toList ++ c.history }

/-- A reply to the fetch of a call, which waits for nothing else. -/
def reply (c : Crowd) (i : Nat) (outcome : Except Failure Snapshot) : Crowd :=
  match c.stages[i]? with
  | some (.fetching goal t since) =>
    { c with
      stages := c.stages.set i ((Stage.fetching goal t since).receive outcome)
      replies := (t, outcome) :: c.replies }
  | _ => c

def move (c : Crowd) : Move → Crowd
  | .join call => { c with stages := c.stages ++ [.ofCall call] }
  | .turn i now => c.turn i now
  | .reply i outcome => c.reply i outcome

/-- The crowds that a session can get to, by any moves in any order. -/
inductive Reachable (s : Session) : Crowd → Prop
  | start : Reachable s (ofSession s)
  | move {c : Crowd} (m : Move) (before : Reachable s c) : Reachable s (c.move m)

theorem Reachable.moves {s : Session} {c : Crowd} (reachable : Reachable s c) (ms : List Move) :
    Reachable s (ms.foldl Crowd.move c) := by
  induction ms generalizing c with
  | nil => exact reachable
  | cons m ms ih => exact ih (reachable.move m)

/-! ## Everything that a move can do -/

/-- What a move does, by where the call stands that it is about. -/
inductive Step (c : Crowd) : Move → Crowd → Prop
  | stay {m : Move} : Step c m c
  | join (call : Call) : Step c (.join call) { c with stages := c.stages ++ [.ofCall call] }
  | look {before after : List Stage} {q : Question} {i : Nat} {now : Instant}
      (here : c.stages = before ++ .look q :: after) :
      Step c (.turn i now) { c with stages :=
        before ++ (if c.session.hasSnapshot then .answer q else .begin (.ask q)) :: after }
  | change {before after : List Stage} {wish : ViewChange} {session : Session} {isNew : Bool}
      {i : Nat} {now : Instant} (here : c.stages = before ++ .change wish :: after)
      (became : Stage.changeView c.session wish = (session, isNew)) :
      Step c (.turn i now) { c with
        session, stages := before ++ .changed session isNew :: after }
  | begin {before after : List Stage} {goal : Goal} {next : Stage} {i : Nat} {now : Instant}
      (here : c.stages = before ++ .begin goal :: after)
      (asked : next.since? = c.session.view.since? now)
      (goes : (∃ since, next = .fetching goal c.session.gate.nextTicket since) ∨
        ∃ fault, next = .crashed fault) :
      Step c (.turn i now) { c with
        session := { c.session with gate := c.session.gate.begin }
        stages := before ++ next :: after
        fetches := ⟨c.session.gate.nextTicket, now, c.session.view.hours, next.since?⟩ :: c.fetches
        history := .began c.session.gate.nextTicket :: c.history }
  | reply {before after : List Stage} {goal : Goal} {t : Ticket} {since : Instant} {i : Nat}
      (here : c.stages = before ++ .fetching goal t since :: after)
      (outcome : Except Failure Snapshot) :
      Step c (.reply i outcome) { c with
        stages := before ++ .settle goal t outcome :: after
        replies := (t, outcome) :: c.replies }
  | settle {before after : List Stage} {goal : Goal} {t : Ticket}
      {outcome : Except Failure Snapshot} {next : Stage} {i : Nat} {now : Instant}
      (here : c.stages = before ++ .settle goal t outcome :: after)
      (goes : (∃ snapshot, outcome = .ok snapshot ∧
          next = Stage.next goal (c.session.gate.isLatest t)) ∨
        ∃ failure shown, outcome = .error failure ∧ next = .done (.error shown)) :
      Step c (.turn i now) { c with
        session := { c.session with gate := c.session.gate.settle t outcome.toOption }
        stages := before ++ next :: after
        history :=
          .settled t outcome.toOption (c.session.gate.isLatest t) :: c.history }
  | answer {before after : List Stage} {q : Question} {next : Stage}
      {visibility : Visibility} {viewport : Option Viewport} {i : Nat} {now : Instant}
      (here : c.stages = before ++ .answer q :: after)
      (ended : next.isOver = true) (noView : ∀ v, next ≠ .done (.ok (.view v))) :
      Step c (.turn i now) { c with
        session := { c.session with visibility, viewport }
        stages := before ++ next :: after }

/-- A place in a list, and what it takes to replace what stands there. -/
theorem split_at {xs : List α} {i : Nat} {x : α} (here : xs[i]? = some x) :
    ∃ before after, xs = before ++ x :: after ∧ ∀ y, xs.set i y = before ++ y :: after := by
  obtain ⟨inside, rfl⟩ := List.getElem?_eq_some_iff.mp here
  refine ⟨xs.take i, xs.drop (i + 1), by simp, fun y => ?_⟩
  rw [List.set_eq_take_append_cons_drop, if_pos inside]

theorem timeline_ne_view (r : Except Halt Timeline) (v : View) :
    r.map Answer.timeline ≠ .ok (.view v) := by
  cases r <;> simp [Except.map]

/-- No question is answered with a view. -/
theorem answer_ne_view (q : Question) (s : Session) (now : Instant) (v : View) :
    (q.answer s now).2 ≠ .ok (.view v) := by
  cases q with
  | timeline => exact timeline_ne_view _ v
  | viewport action => exact timeline_ne_view _ v
  | visibility action => exact timeline_ne_view _ v
  | energy =>
    simp only [Question.answer]
    intro same
    cases found : s.energy <;> rw [found] at same <;> cases same
  | overview => simp [Question.answer]

theorem step_answer (q : Question) (now : Instant) (s : Session) :
    ∃ visibility viewport next,
      (Stage.answer q).step now s = ({ s with visibility, viewport }, next) ∧
      next.isOver = true ∧ ∀ v, next ≠ .done (.ok (.view v)) := by
  obtain ⟨visibility, viewport, moved⟩ := q.answer_frame s now
  have noView := answer_ne_view q s now
  simp only [Stage.step]
  split
  · rename_i s' a answered
    rw [answered] at moved noView
    refine ⟨visibility, viewport, _, by rw [← moved], rfl, fun v same => noView v ?_⟩
    cases same
    rfl
  · rename_i s' fault answered
    rw [answered] at moved
    exact ⟨visibility, viewport, _, by rw [← moved], rfl, by simp⟩
  · rename_i s' fault answered
    rw [answered] at moved
    exact ⟨visibility, viewport, _, by rw [← moved], rfl, by simp⟩

theorem stay_at {c : Crowd} {before after : List Stage} {stage : Stage} {m : Move}
    (here : c.stages = before ++ stage :: after) :
    Step c m { c with stages := before ++ stage :: after } := by
  rw [← here]
  exact .stay

theorem turn_step (c : Crowd) (i : Nat) (now : Instant) :
    Step c (.turn i now) (c.turn i now) := by
  unfold turn
  split
  · exact .stay
  · rename_i stage here
    obtain ⟨before, after, here, replaced⟩ := split_at here
    simp only [replaced]
    cases stage with
    | look q => exact .look here
    | change wish => exact .change here rfl
    | begin goal =>
      simp only [Stage.step, Session.beginRefresh]
      cases reaches : c.session.view.since? now with
      | some since => exact .begin here reaches.symm (.inl ⟨since, rfl⟩)
      | none => exact .begin here reaches.symm (.inr ⟨_, rfl⟩)
    | fetching goal t since => exact stay_at here
    | settle goal t outcome =>
      cases outcome with
      | ok snapshot => exact .settle here (.inl ⟨snapshot, rfl, rfl⟩)
      | error failure => exact .settle here (.inr ⟨failure, _, rfl, rfl⟩)
    | answer q =>
      obtain ⟨visibility, viewport, next, stepped, ended, noView⟩ := step_answer q now c.session
      simp only [stepped]
      exact .answer here ended noView
    | done result => exact stay_at here
    | crashed fault => exact stay_at here

/-- A move is one of the steps. -/
theorem move_step (c : Crowd) (m : Move) : Step c m (c.move m) := by
  cases m with
  | join call => exact .join call
  | turn i now => exact c.turn_step i now
  | reply i outcome =>
    simp only [move, reply]
    split
    · rename_i goal t since here
      obtain ⟨before, after, here, replaced⟩ := split_at here
      rw [replaced]
      exact .reply here outcome
    · exact .stay

/-! ## A sample -/

/-- The first second of 1970. -/
def dawn : Instant := ⟨0, 0, by decide, by decide, by decide⟩

/-- A house of one room, of which nothing is known. -/
def kitchen : Snapshot := { rooms := [⟨"kitchen", none⟩] }

end Crowd

end HouseholdDashboard
