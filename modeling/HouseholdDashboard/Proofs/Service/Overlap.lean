import HouseholdDashboard.Proofs.Service.Records

/-!
# Overlapping calls

What callers can rely on while fetches overlap, as long as none of them fails.

* Once every call has returned, the session shows the response to the newest fetch, which was begun
  with the hours that the view now has.
* A question is answered from what some fetch returned, unless every response so far came in after
  its fetch had been overtaken.  A caller whose own fetch was overtaken goes on regardless, and
  may find nothing.
-/

namespace HouseholdDashboard

namespace Crowd

variable {view : View} {zone : Zone} {tariff : Tariff} {c d : Crowd} {m : Move}

/-! ## Once every call has returned -/

/-- The last reply has been dealt with. -/
theorem Sound.newest_accepted (h : Sound c) (ended : ∀ x ∈ c.stages, x.isDone = true)
    (fetched : c.fetches ≠ []) :
    ∃ outcome, (⟨c.session.gate.issued⟩, outcome) ∈ c.replies ∧
      ∀ snapshot, outcome = .ok snapshot → c.session.gate.current = some snapshot := by
  cases h.newest with
  | unissued none => exact absurd none fetched
  | pending _ somewhere =>
    rcases somewhere with ⟨x, inside, holds⟩ | ⟨x, inside, crashed⟩
    · rw [Stage.ticket_of_over (Stage.isOver_of_done (ended x inside))] at holds
      cases holds
    · rw [Stage.isCrashed_of_done (ended x inside)] at crashed
      cases crashed
  | accepted _ replied shown => exact ⟨_, replied, shown⟩

/-- When no fetch fails and every call has returned, the session shows the response to the fetch
with the greatest ticket.  That fetch was begun with the hours that the view now has, and from no
other hours would it have asked for what it did. -/
theorem shows_newest (reachable : Reachable (.fresh view zone tariff) c)
    (succeeded : ∀ r ∈ c.replies, ∃ snapshot, r.2 = .ok snapshot)
    (ended : ∀ x ∈ c.stages, x.isDone = true) (fetched : c.fetches ≠ []) :
    ∃ f ∈ c.fetches, ∃ snapshot since,
      (∀ g ∈ c.fetches, g ≠ f → g.ticket.number < f.ticket.number) ∧
      (∀ outcome, (f.ticket, outcome) ∈ c.replies ↔ outcome = .ok snapshot) ∧
      c.session.gate.current = some snapshot ∧
      f.since = some since ∧ c.session.view.since? f.moment = some since ∧
      f.hours = c.session.view.hours ∧
      ∀ hours, f.moment.subHours? hours = some since → hours = c.session.view.hours := by
  have sound := reachable.sound
  have records := sound.recorded
  obtain ⟨f, older, fetches⟩ := List.exists_cons_of_ne_nil fetched
  have recorded : f ∈ c.fetches := by rw [fetches]; exact List.mem_cons_self
  obtain ⟨outcome, replied, shown⟩ := sound.newest_accepted ended fetched
  have ticket : f.ticket = ⟨c.session.gate.issued⟩ := by rw [← records.number_head fetches]
  rw [← ticket] at replied
  obtain ⟨snapshot, ok⟩ := succeeded _ replied
  obtain ⟨since, asked, reached⟩ := sound.since_of_replied recorded replied
  have hours := sound.hours_eq (fun x inside => Stage.isOver_of_done (ended x inside)) fetches
  rw [hours] at reached
  refine ⟨f, recorded, snapshot, since, fun g inside other => ?_, fun outcome' => ?_,
    shown snapshot ok, asked, reached, hours,
    fun others found => Instant.eq_of_subHours? found reached⟩
  · have descending := records.descending
    rw [fetches] at descending inside
    exact List.rel_of_pairwise_cons descending (List.mem_of_ne_of_mem other inside)
  · rw [← ok]
    exact ⟨fun again => sound.answered.once again replied, fun same => same ▸ replied⟩

/-- A change of the hours overtakes a refresh, whose response comes in last. -/
def lateRefresh : Crowd :=
  [.join .refresh, .turn 0 dawn, .join (.setView { hours := some 24 }), .turn 1 dawn,
    .turn 1 dawn, .reply 1 (.ok kitchen), .turn 1 dawn, .reply 0 (.ok {}), .turn 0 dawn].foldl
      move (ofSession (.fresh {} .utc {}))

theorem shows_newest_late_refresh :
    Reachable (.fresh {} .utc {}) lateRefresh ∧
    (∀ r ∈ lateRefresh.replies, ∃ snapshot, r.2 = .ok snapshot) ∧
    (∀ x ∈ lateRefresh.stages, x.isDone = true) ∧ lateRefresh.fetches ≠ [] ∧
    ∃ f ∈ lateRefresh.fetches, ∃ snapshot since,
      (∀ g ∈ lateRefresh.fetches, g ≠ f → g.ticket.number < f.ticket.number) ∧
      (∀ outcome, (f.ticket, outcome) ∈ lateRefresh.replies ↔ outcome = .ok snapshot) ∧
      lateRefresh.session.gate.current = some snapshot ∧
      f.since = some since ∧ lateRefresh.session.view.since? f.moment = some since ∧
      f.hours = lateRefresh.session.view.hours ∧
      ∀ hours, f.moment.subHours? hours = some since → hours = lateRefresh.session.view.hours := by
  have reachable : Reachable (.fresh {} .utc {}) lateRefresh := Reachable.start.moves _
  have replies : lateRefresh.replies = [(⟨1⟩, .ok {}), (⟨2⟩, .ok kitchen)] := rfl
  have stages : lateRefresh.stages =
      [.done (.ok (.refreshed false)), .done (.ok (.view { hours := 24 }))] := rfl
  have succeeded : ∀ r ∈ lateRefresh.replies, ∃ snapshot, r.2 = .ok snapshot := by
    simp [replies]
  have ended : ∀ x ∈ lateRefresh.stages, x.isDone = true := by
    simp [stages, Stage.isDone]
  have fetched : lateRefresh.fetches ≠ [] := List.cons_ne_nil _ _
  exact ⟨reachable, succeeded, ended, fetched, shows_newest reachable succeeded ended fetched⟩

/-! ## What a question is answered from -/

/-- Whoever is about to answer a question has seen a fetch begin. -/
def Asking (c : Crowd) : Prop :=
  ∀ q, .answer q ∈ c.stages → c.fetches ≠ []

theorem Recorded.fetched_of_current (h : Recorded c)
    (shown : c.session.gate.current.isSome = true) : c.fetches ≠ [] := by
  obtain ⟨_, t, _, _, _, split, -⟩ := h.run.current_isSome_iff.mp shown
  have began := h.run.began_of_settled (split ▸ List.mem_append_right _ List.mem_cons_self)
  obtain ⟨f, recorded, -⟩ := (h.issued t).mp began
  exact List.ne_nil_of_mem recorded

namespace Asking

theorem congr (h : Asking c) {before after : List Stage} {stage next : Stage}
    (here : c.stages = before ++ stage :: after)
    (new : ∀ q, next = .answer q → d.fetches ≠ [])
    (fetches : ∀ f ∈ c.fetches, f ∈ d.fetches) (stages : d.stages = before ++ next :: after) :
    Asking d := by
  intro q inside
  rw [stages] at inside
  rcases mem_replaced stage inside with same | old
  · exact new q same.symm
  · obtain ⟨f, recorded⟩ := List.exists_mem_of_ne_nil _ (h q (here ▸ old))
    exact List.ne_nil_of_mem (fetches f recorded)

theorem step (h : Asking c) (r : Recorded c) (stepped : Step c m d) : Asking d := by
  cases stepped with
  | stay => exact h
  | join call =>
    intro q inside
    rcases List.mem_append.mp inside with old | new
    · exact h q old
    · cases call <;> cases List.mem_singleton.mp new
  | @look before after q i now here =>
    refine h.congr here (fun q' goes => ?_) (fun _ => id) rfl
    cases loaded : c.session.hasSnapshot with
    | true => exact r.fetched_of_current loaded
    | false =>
      rw [loaded] at goes
      cases goes
  | @change before after wish session isNew i now here became =>
    refine h.congr here (fun q goes => ?_) (fun _ => id) rfl
    cases isNew <;> cases goes
  | begin here asked goes =>
    refine h.congr here (fun _ _ => List.cons_ne_nil _ _) (fun _ => List.mem_cons_of_mem _) rfl
  | reply here outcome => exact h.congr here (fun q goes => by cases goes) (fun _ => id) rfl
  | settle here goes =>
    refine h.congr here (fun _ _ => ?_) (fun _ => id) rfl
    obtain ⟨f, recorded, -⟩ := r.held _ (mem_holding here) _ rfl
    exact List.ne_nil_of_mem recorded
  | answer here ended noView =>
    exact h.congr here (fun q goes => by rw [goes] at ended; cases ended) (fun _ => id) rfl

theorem start (s : Session) : Asking (ofSession s) := by
  simp [Asking, ofSession]

end Asking

theorem Reachable.asking (reachable : Reachable (.fresh view zone tariff) c) : Asking c := by
  induction reachable with
  | start => exact .start _
  | move m before ih => exact ih.step before.sound.recorded (move_step _ m)

/-- The last fetch is under way as long as nothing is shown. -/
theorem Sound.loading (h : Sound c) (succeeded : ∀ r ∈ c.replies, ∃ snapshot, r.2 = .ok snapshot)
    (fetched : c.fetches ≠ []) (unshown : c.session.gate.current = none) :
    c.session.isLoading = true := by
  cases h.newest with
  | unissued none => exact absurd none fetched
  | pending pending _ => exact pending
  | accepted _ replied shown =>
    obtain ⟨snapshot, ok⟩ := succeeded _ replied
    rw [shown snapshot ok] at unshown
    cases unshown

/-- The section that answers a question. -/
theorem turn_answer {i : Nat} {q : Question} {now : Instant} {a : Answer}
    (here : c.stages[i]? = some (.answer q))
    (answered : (c.turn i now).stages[i]? = some (.done (.ok a))) :
    (q.answer c.session now).2 = .ok a := by
  obtain ⟨inside, -⟩ := List.getElem?_eq_some_iff.mp here
  simp only [turn, here, List.getElem?_set_self inside, Option.some.injEq, Stage.step] at answered
  split at answered
  · rename_i found
    cases answered
    rw [found]
  · cases answered
  · cases answered

/-- While no fetch fails, a question is answered from what some fetch returned exactly when some
response came in before its fetch was overtaken.  Until then it is answered from nothing, and the
session is loading. -/
theorem answered_from_reply_iff (reachable : Reachable (.fresh view zone tariff) c)
    (succeeded : ∀ r ∈ c.replies, ∃ snapshot, r.2 = .ok snapshot) {i : Nat} {q : Question}
    {now : Instant} {a : Answer} (here : c.stages[i]? = some (.answer q))
    (answered : (c.turn i now).stages[i]? = some (.done (.ok a))) :
    (q.answer c.session now).2 = .ok a ∧
    ((∃ t snapshot, (t, .ok snapshot) ∈ c.replies ∧ c.session.gate.current = some snapshot) ↔
      Gate.InTime c.history) ∧
    (¬ Gate.InTime c.history → c.session.gate.current = none ∧ c.session.snapshot = {} ∧
      c.session.isLoading = true) := by
  have sound := reachable.sound
  have run := sound.recorded.run
  refine ⟨turn_answer here answered, ⟨fun ⟨_, snapshot, _, shown⟩ => ?_, fun in_time => ?_⟩,
    fun late => ?_⟩
  · exact run.current_isSome_iff.mp (by rw [shown]; rfl)
  · obtain ⟨snapshot, shown⟩ := Option.isSome_iff_exists.mp (run.current_isSome_iff.mpr in_time)
    have accepted := shown
    rw [run.follows.current, Option.map_eq_some_iff] at accepted
    obtain ⟨⟨t, _⟩, last, rfl⟩ := accepted
    exact ⟨t, _, sound.answered.settled (Gate.mem_of_shown? last), shown⟩
  · have unshown : c.session.gate.current = none := by
      rw [← Option.not_isSome_iff_eq_none, run.current_isSome_iff]
      exact late
    have asked := reachable.asking q (List.mem_of_getElem? here)
    refine ⟨unshown, ?_, sound.loading succeeded asked unshown⟩
    rw [Session.snapshot, unshown]
    rfl

/-- A question alone, up to where it is answered. -/
def asked : Crowd :=
  [.join (.ask .overview), .turn 0 dawn, .turn 0 dawn, .reply 0 (.ok kitchen),
    .turn 0 dawn].foldl move (ofSession (.fresh {} .utc {}))

theorem answered_from_reply_alone :
    Reachable (.fresh {} .utc {}) asked ∧
    (∀ r ∈ asked.replies, ∃ snapshot, r.2 = .ok snapshot) ∧
    asked.stages[0]? = some (.answer .overview) ∧
    (asked.turn 0 dawn).stages[0]? =
      some (.done (.ok (.overview (kitchen.rooms.map RoomCard.ofRoom)))) ∧
    ∃ t snapshot, (t, .ok snapshot) ∈ asked.replies ∧
      asked.session.gate.current = some snapshot := by
  have reachable : Reachable (.fresh {} .utc {}) asked := Reachable.start.moves _
  have replies : asked.replies = [(⟨1⟩, .ok kitchen)] := rfl
  have succeeded : ∀ r ∈ asked.replies, ∃ snapshot, r.2 = .ok snapshot := by
    simp [replies]
  have answered : (asked.turn 0 dawn).stages[0]? =
      some (.done (.ok (.overview (kitchen.rooms.map RoomCard.ofRoom)))) := rfl
  have found := answered_from_reply_iff reachable succeeded rfl answered
  exact ⟨reachable, succeeded, rfl, answered,
    found.2.1.mpr ⟨[], ⟨1⟩, kitchen, true, [.began ⟨1⟩], rfl, rfl⟩⟩

/-- A question whose fetch is overtaken by a refresh. -/
def overtaken : Crowd :=
  [.join (.ask .overview), .join .refresh, .turn 0 dawn, .turn 0 dawn, .turn 1 dawn,
    .reply 0 (.ok kitchen), .turn 0 dawn, .turn 0 dawn, .reply 1 (.ok kitchen),
    .turn 1 dawn].foldl move (ofSession (.fresh {} .utc {}))

/-- Every fetch returns a house of one room, and yet a caller is told that there is none. -/
theorem answered_from_nothing :
    ∃ c, Reachable (.fresh {} .utc {}) c ∧ (∀ r ∈ c.replies, r.2 = .ok kitchen) ∧
      (∀ x ∈ c.stages, x.isDone = true) ∧ .done (.ok (.overview [])) ∈ c.stages ∧
      ∀ s : Session, s.gate.current = some kitchen → s.overview ≠ [] := by
  have replies : overtaken.replies = [(⟨2⟩, .ok kitchen), (⟨1⟩, .ok kitchen)] := rfl
  have stages : overtaken.stages =
      [.done (.ok (.overview [])), .done (.ok (.refreshed true))] := rfl
  refine ⟨overtaken, Reachable.start.moves _, ?_, ?_, ?_, fun s shown => ?_⟩
  · simp [replies]
  · simp [stages, Stage.isDone]
  · simp [stages]
  · simp [Session.overview, Session.snapshot, shown, kitchen]

end Crowd

end HouseholdDashboard
