import HouseholdDashboard.Proofs.Service.Records
import HouseholdDashboard.Service.Run

/-!
# One call after the other

What a caller can rely on who has the session to itself, while fetches succeed and fail as they
like.  Only the last call is under way then, and it holds the last ticket (`Alone`); the session
shows the response to the last fetch that succeeded (`Kept`).

The view is changed before the fetch for it begins, and stays changed when that fetch fails.  So
the snapshot beside a view may be one for the hours before it.
-/

namespace HouseholdDashboard

/-- The view that a call returns, if all goes well. -/
def Stage.promised? : Stage → Option View
  | begin (.view v) => some v
  | fetching (.view v) _ _ => some v
  | settle (.view v) _ _ => some v
  | done (.ok (.view v)) => some v
  | _ => none

theorem Stage.eq_of_promised {stage : Stage} {v : View} (ended : stage.isOver = true)
    (promises : stage.promised? = some v) : stage = .done (.ok (.view v)) := by
  unfold Stage.promised? at promises
  split at promises
  · cases ended
  · cases ended
  · cases ended
  · cases promises
    rfl
  · cases promises

/-- A call holds no ticket but the last, and promises no view but the session's. -/
structure Stage.Fits (s : Session) (stage : Stage) : Prop where
  ticket : ∀ t, stage.ticket? = some t → t = ⟨s.gate.issued⟩
  view : ∀ v, stage.promised? = some v → v = s.view

namespace Stage.Fits

variable {s : Session} {stage : Stage}

/-- A call that holds and promises nothing. -/
theorem of_none (ticket : stage.ticket? = none) (view : stage.promised? = none) :
    stage.Fits s where
  ticket := fun t holds => by rw [ticket] at holds; cases holds
  view := fun v promises => by rw [view] at promises; cases promises

/-- A call that keeps its promise once it holds no ticket any more. -/
theorem free (h : stage.Fits s) {s' : Session} (same : s'.view = s.view) {next : Stage}
    (ticket : next.ticket? = none)
    (view : ∀ v, next.promised? = some v → stage.promised? = some v) : next.Fits s' where
  ticket := fun t holds => by rw [ticket] at holds; cases holds
  view := fun v promises => (h.view v (view v promises)).trans same.symm

end Stage.Fits

def Move.isJoin : Move → Bool
  | .join _ => true
  | _ => false

namespace Crowd

variable {s : Session} {view : View} {zone : Zone} {tariff : Tariff} {c d : Crowd} {m : Move}

/-- Whether every call is over. -/
def isIdle (c : Crowd) : Bool := c.stages.all Stage.isOver

/-- The crowds that a session can get to when calls come in one after the other. -/
inductive Sequential (s : Session) : Crowd → Prop
  | start : Sequential s (ofSession s)
  | move {c : Crowd} (m : Move) (before : Sequential s c)
      (idle : m.isJoin = true → c.isIdle = true) : Sequential s (c.move m)

theorem Sequential.reachable (run : Sequential s c) : Reachable s c := by
  induction run with
  | start => exact .start
  | move m _ _ ih => exact ih.move m

/-- Whether a call comes in only when every other is over. -/
def inTurns (c : Crowd) : List Move → Bool
  | [] => true
  | m :: ms => (!m.isJoin || c.isIdle) && (c.move m).inTurns ms

theorem Sequential.moves {ms : List Move} (run : Sequential s c) (turns : c.inTurns ms = true) :
    Sequential s (ms.foldl Crowd.move c) := by
  induction ms generalizing c with
  | nil => exact run
  | cons m ms ih =>
    obtain ⟨idle, rest⟩ := Bool.and_eq_true_iff.mp turns
    refine ih (run.move m fun joins => ?_) rest
    rw [joins] at idle
    exact idle

/-! ## Calls that run to their end -/

/-- Where a call stands at its end. -/
def ending : Except ArithmeticFault (Except Failure Answer) → Stage
  | .ok result => .done result
  | .error fault => .crashed fault

theorem turn_last {before : List Stage} {stage : Stage} (here : c.stages = before ++ [stage])
    (now : Instant) :
    (c.move (.turn before.length now)).session = (stage.step now c.session).1 ∧
      (c.move (.turn before.length now)).stages = before ++ [(stage.step now c.session).2] := by
  simp [move, turn, here]

theorem reply_last {before : List Stage} {goal : Goal} {t : Ticket} {since : Instant}
    (here : c.stages = before ++ [.fetching goal t since]) (outcome : Except Failure Snapshot) :
    (c.move (.reply before.length outcome)).session = c.session ∧
      (c.move (.reply before.length outcome)).stages = before ++ [.settle goal t outcome] := by
  simp [move, reply, here, Stage.receive]

namespace Sequential

/-- The last call goes on to its end while nobody else calls. -/
theorem run_last (out : Outside σ) {before : List Stage} {stage : Stage} (run : Sequential s c)
    (here : c.stages = before ++ [stage]) (world : σ) :
    ∃ d, Sequential s d ∧ d.session = (stage.run out c.session world).1 ∧
      d.stages = before ++ [ending (stage.run out c.session world).2.result] := by
  induction rank : stage.rank using Nat.strongRecOn generalizing c stage world with
  | ind n ih =>
    subst rank
    -- a section brings the call nearer to its end, and leaves the rest of its run
    have section_ih (going : stage.isOver = false)
        (free : ∀ goal t since, stage ≠ .fetching goal t since)
        (unfolds : ∀ s, stage.run out s world =
          (stage.step (out.now world) s).2.run out (stage.step (out.now world) s).1 world) :
        ∃ d, Sequential s d ∧ d.session = (stage.run out c.session world).1 ∧
          d.stages = before ++ [ending (stage.run out c.session world).2.result] := by
      obtain ⟨session, stages⟩ := turn_last here (out.now world)
      have nearer := Stage.rank_step_lt (out.now world) c.session stage going free
      have turned := run.move (.turn before.length (out.now world)) (fun joins => by cases joins)
      rw [unfolds, ← session]
      exact ih _ nearer turned stages world rfl
    cases stage with
    | look q => exact section_ih rfl (by simp) fun s => by rw [Stage.run]
    | change wish => exact section_ih rfl (by simp) fun s => by rw [Stage.run]
    | begin goal => exact section_ih rfl (by simp) fun s => by rw [Stage.run]
    | settle goal t outcome => exact section_ih rfl (by simp) fun s => by rw [Stage.run]
    | answer q => exact section_ih rfl (by simp) fun s => by rw [Stage.run]
    | fetching goal t since =>
      obtain ⟨session, stages⟩ := reply_last here (out.fetch since world).1
      have replied := run.move (.reply before.length (out.fetch since world).1)
        (fun joins => by cases joins)
      obtain ⟨d, run', session', stages'⟩ :=
        ih _ (by simp [Stage.rank]) replied stages (out.fetch since world).2 rfl
      rw [session] at session' stages'
      rw [Stage.run]
      exact ⟨d, run', session', stages'⟩
    | done result => exact ⟨c, run, by rw [Stage.run], by rw [Stage.run]; exact here⟩
    | crashed fault => exact ⟨c, run, by rw [Stage.run], by rw [Stage.run]; exact here⟩

/-- To make a call while nobody else does is to move the crowd. -/
theorem run_call (out : Outside σ) (run : Sequential s c) (idle : c.isIdle = true) (call : Call)
    (world : σ) :
    ∃ d, Sequential s d ∧ d.session = (call.run out c.session world).1 ∧
      d.stages = c.stages ++ [ending (call.run out c.session world).2.result] :=
  (run.move (.join call) fun _ => idle).run_last out rfl world

end Sequential

/-! ## The call under way -/

/-- Only the last call is under way, and it fits the session. -/
structure Alone (c : Crowd) : Prop where
  others : ∀ x ∈ c.stages.dropLast, x.isOver = true
  fits : ∀ stage, c.stages.getLast? = some stage → stage.Fits c.session

namespace Alone

theorem start (s : Session) : Alone (ofSession s) where
  others := by simp [ofSession]
  fits := by simp [ofSession]

/-- A call under way is the last one. -/
theorem after_eq_nil (h : Alone c) {before after : List Stage} {stage : Stage}
    (here : c.stages = before ++ stage :: after) (going : stage.isOver = false) : after = [] := by
  cases after with
  | nil => rfl
  | cons x after =>
    have ended : stage.isOver = true := by
      refine h.others stage ?_
      rw [here, List.dropLast_append_cons, List.dropLast_cons_of_ne_nil (List.cons_ne_nil x after)]
      exact mem_next
    rw [going] at ended
    cases ended

theorem fits_here (h : Alone c) {before after : List Stage} {stage : Stage}
    (here : c.stages = before ++ stage :: after) (going : stage.isOver = false) :
    stage.Fits c.session := by
  refine h.fits stage ?_
  rw [here, h.after_eq_nil here going]
  exact List.getLast?_concat

/-- The call under way goes on. -/
theorem goes_on (h : Alone c) {before after : List Stage} {stage next : Stage}
    (here : c.stages = before ++ stage :: after) (going : stage.isOver = false)
    (stages : d.stages = before ++ next :: after) (fits : next.Fits d.session) : Alone d := by
  have none_after := h.after_eq_nil here going
  have others := h.others
  rw [none_after] at here stages
  rw [here, List.dropLast_concat] at others
  refine ⟨by rw [stages, List.dropLast_concat]; exact others, fun x newest => ?_⟩
  rw [stages, List.getLast?_concat] at newest
  cases newest
  exact fits

theorem join (idle : c.isIdle = true) (call : Call) :
    Alone { c with stages := c.stages ++ [.ofCall call] } where
  others := by
    rw [List.dropLast_concat]
    exact List.all_eq_true.mp idle
  fits := by
    intro stage newest
    rw [List.getLast?_concat] at newest
    cases newest
    cases call <;> exact .of_none rfl rfl

theorem step (h : Alone c) (stepped : Step c m d) (idle : m.isJoin = true → c.isIdle = true) :
    Alone d := by
  cases stepped with
  | stay => exact h
  | join call => exact join (idle rfl) call
  | look here =>
    refine h.goes_on here rfl rfl ?_
    split <;> exact .of_none rfl rfl
  | @change before after wish session isNew i now here became =>
    refine h.goes_on here rfl rfl ?_
    refine ⟨fun t holds => ?_, fun v promises => ?_⟩
    · cases isNew <;> cases holds
    · cases isNew <;> cases promises <;> rfl
  | @begin before after goal next i now here asked goes =>
    have fits := h.fits_here here rfl
    refine h.goes_on here rfl rfl ?_
    rcases goes with ⟨since, rfl⟩ | ⟨fault, rfl⟩
    · refine ⟨fun t holds => by cases holds; rfl, fun v promises => fits.view v ?_⟩
      cases goal <;> exact promises
    · exact .of_none rfl rfl
  | @reply before after goal t since i here outcome =>
    have fits := h.fits_here here rfl
    refine h.goes_on here rfl rfl ⟨fits.ticket, fun v promises => fits.view v ?_⟩
    cases goal <;> exact promises
  | @settle before after goal t outcome next i now here goes =>
    have fits := h.fits_here here rfl
    have noTicket := Recorded.free_of_settled goes
    refine h.goes_on here rfl rfl (fits.free ?_ noTicket fun v promises => ?_)
    · rfl
    rcases goes with ⟨snapshot, rfl, rfl⟩ | ⟨failure, shown, rfl, rfl⟩
    · cases goal <;> exact promises
    · cases promises
  | @answer before after q next visibility viewport i now here ended noView =>
    refine h.goes_on here rfl rfl ⟨fun t holds => ?_, fun v promises => ?_⟩
    · rw [Stage.ticket_of_over ended] at holds
      cases holds
    · exact absurd (Stage.eq_of_promised ended promises) (noView v)

end Alone

/-! ## The snapshot that is shown -/

/-- What is shown is the response to some fetch, and a later one that succeeded is just being
handed in. -/
def Kept (c : Crowd) : Prop :=
  ∀ snapshot, c.session.gate.current = some snapshot →
    ∃ f ∈ c.fetches, (f.ticket, .ok snapshot) ∈ c.replies ∧
      ∀ g ∈ c.fetches, f.ticket.number < g.ticket.number → ∀ later,
        (g.ticket, .ok later) ∈ c.replies →
          ∃ goal, .settle goal g.ticket (.ok later) ∈ c.stages

namespace Kept

theorem start : Kept (ofSession (.fresh view zone tariff)) := by
  simp [Kept, ofSession, Session.fresh, Gate.fresh]

/-- Nothing is handed in, begun or replied to. -/
theorem congr (h : Kept c) (current : d.session.gate.current = c.session.gate.current)
    (fetches : d.fetches = c.fetches) (replies : d.replies = c.replies)
    (stages : ∀ goal t later, .settle goal t (.ok later) ∈ c.stages →
      .settle goal t (.ok later) ∈ d.stages) : Kept d := by
  intro snapshot shown
  rw [current] at shown
  obtain ⟨f, recorded, replied, none_later⟩ := h snapshot shown
  rw [fetches, replies]
  refine ⟨f, recorded, replied, fun g recorded' newer later replied' => ?_⟩
  obtain ⟨goal, settling⟩ := none_later g recorded' newer later replied'
  exact ⟨goal, stages goal g.ticket later settling⟩

/-- A call goes on that hands in no snapshot. -/
theorem mem_settle {before after : List Stage} {stage next : Stage}
    (here : c.stages = before ++ stage :: after)
    (other : ∀ goal t later, stage ≠ .settle goal t (.ok later)) (goal : Goal) (t : Ticket)
    (later : Snapshot) (inside : .settle goal t (.ok later) ∈ c.stages) :
    .settle goal t (.ok later) ∈ before ++ next :: after := by
  rw [here] at inside
  rcases mem_replaced next inside with same | old
  · exact absurd same.symm (other goal t later)
  · exact old

theorem begin (h : Kept c) (r : Recorded c) (a : Answered c) {before after : List Stage}
    {goal : Goal} {next : Stage} {f : Fetch} (here : c.stages = before ++ .begin goal :: after)
    (ticket : f.ticket = c.session.gate.nextTicket) :
    Kept { c with
      session := { c.session with gate := c.session.gate.begin }
      stages := before ++ next :: after
      fetches := f :: c.fetches
      history := .began c.session.gate.nextTicket :: c.history } := by
  intro snapshot shown
  obtain ⟨f', recorded, replied, none_later⟩ := h snapshot shown
  refine ⟨f', List.mem_cons_of_mem _ recorded, replied, fun g recorded' newer later replied' => ?_⟩
  rcases List.mem_cons.mp recorded' with rfl | old
  · rw [ticket] at replied'
    exact absurd (a.replied replied') r.not_asked_next
  · obtain ⟨goal', settling⟩ := none_later g old newer later replied'
    exact ⟨goal', mem_settle here (fun _ _ _ same => by cases same) _ _ _ settling⟩

theorem reply (h : Kept c) {before after : List Stage} {goal : Goal} {t : Ticket}
    {since : Instant} (here : c.stages = before ++ .fetching goal t since :: after)
    (outcome : Except Failure Snapshot) :
    Kept { c with
      stages := before ++ .settle goal t outcome :: after
      replies := (t, outcome) :: c.replies } := by
  intro snapshot shown
  obtain ⟨f, recorded, replied, none_later⟩ := h snapshot shown
  refine ⟨f, recorded, List.mem_cons_of_mem _ replied, fun g recorded' newer later replied' => ?_⟩
  rcases List.mem_cons.mp replied' with same | old
  · cases same
    exact ⟨goal, mem_next⟩
  · obtain ⟨goal', settling⟩ := none_later g recorded' newer later old
    exact ⟨goal', mem_settle here (fun _ _ _ same => by cases same) _ _ _ settling⟩

/-- The call under way hands in its reply, which is that for the last ticket. -/
theorem settle (h : Kept c) (r : Recorded c) (a : Answered c) {before after : List Stage}
    {goal : Goal} {t : Ticket} {outcome : Except Failure Snapshot} {next : Stage}
    (here : c.stages = before ++ .settle goal t outcome :: after)
    (latest : t = ⟨c.session.gate.issued⟩) :
    Kept { c with
      session := { c.session with gate := c.session.gate.settle t outcome.toOption }
      stages := before ++ next :: after
      history :=
        .settled t outcome.toOption (c.session.gate.isLatest t) :: c.history } := by
  have accepted : c.session.gate.isLatest t = true := by
    rw [latest]
    exact Gate.isLatest_iff.mpr rfl
  rw [Gate.settle_of_accepted outcome.toOption accepted]
  cases outcome with
  | ok snapshot =>
    intro shown same
    cases same
    obtain ⟨f, recorded, ticket, -⟩ := r.held _ (mem_holding here) t rfl
    have replied := a.settling (mem_holding here)
    rw [← ticket] at replied latest
    refine ⟨f, recorded, replied, fun g recorded' newer => ?_⟩
    have le := r.number_le recorded'
    rw [latest] at newer
    exact absurd newer (Nat.not_lt_of_le le)
  | error failure =>
    refine h.congr rfl rfl rfl fun goal' u later inside => ?_
    exact mem_settle here (fun _ _ _ same => by cases same) _ _ _ inside

theorem step (h : Kept c) (alone : Alone c) (r : Recorded c) (a : Answered c)
    (stepped : Step c m d) : Kept d := by
  cases stepped with
  | stay => exact h
  | join call => exact h.congr rfl rfl rfl fun _ _ _ inside => List.mem_append_left _ inside
  | look here => exact h.congr rfl rfl rfl (mem_settle here fun _ _ _ same => by cases same)
  | @change before after wish session isNew i now here became =>
    have gate := Stage.changeView_gate c.session wish
    rw [became] at gate
    refine h.congr ?_ rfl rfl (mem_settle here fun _ _ _ same => by cases same)
    exact congrArg Gate.current gate
  | begin here asked goes => exact h.begin r a here rfl
  | reply here outcome => exact h.reply here outcome
  | settle here goes => exact h.settle r a here ((alone.fits_here here rfl).ticket _ rfl)
  | answer here ended noView =>
    exact h.congr rfl rfl rfl (mem_settle here fun _ _ _ same => by cases same)

end Kept

namespace Sequential

theorem alone (run : Sequential s c) : Alone c := by
  induction run with
  | start => exact .start s
  | move m _ idle ih => exact ih.step (move_step _ m) idle

theorem kept (run : Sequential (.fresh view zone tariff) c) : Kept c := by
  induction run with
  | start => exact .start
  | move m before _ ih =>
    have sound := before.reachable.sound
    exact ih.step before.alone sound.recorded sound.answered (move_step _ m)

/-- After the last call has returned, every call is over. -/
theorem ended (run : Sequential s c) {result : Except Failure Answer}
    (returned : c.stages.getLast? = some (.done result)) : ∀ x ∈ c.stages, x.isOver = true := by
  intro x inside
  obtain ⟨before, split⟩ := List.getLast?_eq_some_iff.mp returned
  have others := run.alone.others
  rw [split, List.dropLast_concat] at others
  rw [split] at inside
  rcases List.mem_append.mp inside with earlier | newest
  · exact others x earlier
  · rw [List.mem_singleton.mp newest]
    rfl

end Sequential

/-- When the change of a view has returned, the last fetch asked for the hours of that view, and
the snapshot beside it is the response to the last fetch that succeeded.  So that snapshot is one
for the hours of the view exactly if these two fetches asked for the same hours: a fetch that failed
in between may have asked for others. -/
theorem view_fits_snapshot_iff (run : Sequential (.fresh view zone tariff) c) {v : View}
    (returned : c.stages.getLast? = some (.done (.ok (.view v)))) {snapshot : Snapshot}
    (shown : c.session.gate.current = some snapshot) :
    ∃ newest older f since, c.fetches = newest :: older ∧ newest.hours = v.hours ∧
      f ∈ c.fetches ∧ (f.ticket, .ok snapshot) ∈ c.replies ∧
      (∀ g ∈ c.fetches, f.ticket.number < g.ticket.number →
        ∀ later, (g.ticket, .ok later) ∉ c.replies) ∧
      f.since = some since ∧
      (v.since? f.moment = some since ↔ f.hours = newest.hours) := by
  have sound := run.reachable.sound
  have ended := run.ended returned
  have v_eq : v = c.session.view := (run.alone.fits _ returned).view v rfl
  obtain ⟨f, recorded, replied, settling⟩ := run.kept snapshot shown
  obtain ⟨newest, older, fetches⟩ := List.exists_cons_of_ne_nil (List.ne_nil_of_mem recorded)
  have hours : newest.hours = v.hours := by
    rw [v_eq]
    exact sound.hours_eq ended fetches
  obtain ⟨since, asked, reached⟩ := sound.since_of_replied recorded replied
  refine ⟨newest, older, f, since, fetches, hours, recorded, replied,
    fun g recorded' newer later replied' => ?_, asked, fun found => ?_, fun same => ?_⟩
  · obtain ⟨goal, inside⟩ := settling g recorded' newer later replied'
    cases ended _ inside
  · rw [hours]
    exact Instant.eq_of_subHours? reached found
  · rw [View.since?, ← hours, ← same]
    exact reached

/-- A refresh that succeeds, and a change to 24 hours whose fetch fails. -/
def failedChange : Crowd :=
  [.join .refresh, .turn 0 dawn, .reply 0 (.ok kitchen), .turn 0 dawn,
    .join (.setView { hours := some 24 }), .turn 1 dawn, .turn 1 dawn,
    .reply 1 (.error (.ofCause (.outbound "down"))), .turn 1 dawn].foldl
      move (ofSession (.fresh {} .utc {}))

/-- The same change once more, which finds the hours changed already. -/
def secondChange : Crowd :=
  [.join (.setView { hours := some 24 }), .turn 2 dawn].foldl move failedChange

theorem sequential_secondChange : Sequential (.fresh {} .utc {}) secondChange :=
  (Sequential.start.moves (by rfl) : Sequential _ failedChange).moves (by rfl)

theorem view_fits_snapshot_second_change :
    Sequential (.fresh {} .utc {}) secondChange ∧
    secondChange.stages.getLast? = some (.done (.ok (.view { hours := 24 }))) ∧
    secondChange.session.gate.current = some kitchen ∧
    ∃ newest older f since, secondChange.fetches = newest :: older ∧ newest.hours = 24 ∧
      f ∈ secondChange.fetches ∧ (f.ticket, .ok kitchen) ∈ secondChange.replies ∧
      (∀ g ∈ secondChange.fetches, f.ticket.number < g.ticket.number →
        ∀ later, (g.ticket, .ok later) ∉ secondChange.replies) ∧
      f.since = some since ∧
      (View.since? { hours := 24 } f.moment = some since ↔ f.hours = newest.hours) :=
  ⟨sequential_secondChange, rfl, rfl, view_fits_snapshot_iff sequential_secondChange rfl rfl⟩

/-- The second change succeeds without a fetch, beside a snapshot of the last 12 hours. -/
theorem view_beside_old_snapshot :
    ∃ c v snapshot, Sequential (.fresh {} .utc {}) c ∧
      c.stages.getLast? = some (.done (.ok (.view v))) ∧
      c.session.gate.current = some snapshot ∧
      (∃ f ∈ c.fetches, (f.ticket, .ok snapshot) ∈ c.replies) ∧
      ∀ f ∈ c.fetches, (f.ticket, .ok snapshot) ∈ c.replies → f.since ≠ v.since? f.moment := by
  have fetches : secondChange.fetches =
      [⟨⟨2⟩, dawn, 24, dawn.subHours? 24⟩, ⟨⟨1⟩, dawn, 12, dawn.subHours? 12⟩] := rfl
  have replies : secondChange.replies =
      [(⟨2⟩, .error (.ofCause (.outbound "down"))), (⟨1⟩, .ok kitchen)] := rfl
  refine ⟨secondChange, { hours := 24 }, kitchen, sequential_secondChange, rfl, rfl, ?_, ?_⟩
  · simp [fetches, replies]
  · intro f recorded replied
    simp only [fetches, List.mem_cons, List.not_mem_nil, or_false] at recorded
    rcases recorded with rfl | rfl
    · simp [replies] at replied
    · decide

end Crowd

end HouseholdDashboard
