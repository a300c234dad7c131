import HouseholdDashboard.Proofs.Service.Crowd

/-!
# Records of a crowd

What holds of the records of every crowd that a session can get to.

* The history of the gate is a run of the gate, and the tickets that were issued are those of the
  fetches on record, the latest first (`Recorded`).
* Every ticket is held by at most one call and is replied to at most once (`Answered`).
* The last ticket is still held by some call, or its reply has been dealt with (`Newest`).
* The last fetch looked as far back as the view says, unless some call is about to begin another
  (`Timely`).
-/

namespace HouseholdDashboard

namespace Crowd

variable {s : Session} {c d : Crowd} {m : Move}

/-! ## Replacing a stage -/

theorem mem_replaced (stage : Stage) {before after : List Stage} {next x : Stage}
    (inside : x ∈ before ++ next :: after) : x = next ∨ x ∈ before ++ stage :: after := by
  simp only [List.mem_append, List.mem_cons] at inside ⊢
  rcases inside with h | rfl | h
  · exact .inr (.inl h)
  · exact .inl rfl
  · exact .inr (.inr (.inr h))

theorem mem_other {before after : List Stage} {stage x : Stage} (inside : x ∈ before ++ after) :
    x ∈ before ++ stage :: after := by
  simp only [List.mem_append, List.mem_cons] at inside ⊢
  exact inside.imp_right .inr

theorem mem_next {before after : List Stage} {next : Stage} : next ∈ before ++ next :: after := by
  simp

theorem mem_holding {before after : List Stage} {stage : Stage}
    (here : c.stages = before ++ stage :: after) : stage ∈ c.stages := by
  rw [here]
  exact mem_next

/-- What some call is at stays so, unless that is the call that goes on. -/
theorem exists_kept {P : Stage → Prop} {before after : List Stage} {stage next : Stage}
    (here : c.stages = before ++ stage :: after) (other : P stage → P next)
    (some : ∃ x ∈ c.stages, P x) : ∃ x ∈ before ++ next :: after, P x := by
  obtain ⟨x, inside, holds⟩ := some
  rw [here] at inside
  rcases mem_replaced next inside with rfl | old
  · exact ⟨next, mem_next, other holds⟩
  · exact ⟨x, old, holds⟩

/-- A stage without a ticket takes no ticket into the crowd. -/
theorem tickets_sublist {before after : List Stage} {stage next : Stage}
    (free : next.ticket? = none) :
    ((before ++ next :: after).filterMap Stage.ticket?).Sublist
      ((before ++ stage :: after).filterMap Stage.ticket?) := by
  simp only [List.filterMap_append, List.filterMap_cons, free]
  refine List.Sublist.append_left ?_ _
  cases stage.ticket? with
  | none => exact .refl _
  | some t => exact .cons _ (.refl _)

/-! ## Fetches and the gate -/

/-- The backend was asked for the fetch with this ticket. -/
def Asked (c : Crowd) (t : Ticket) : Prop :=
  ∃ f ∈ c.fetches, f.ticket = t ∧ f.since.isSome = true

theorem Asked.mono {t : Ticket} (h : Asked c t) (fetches : ∀ f ∈ c.fetches, f ∈ d.fetches) :
    Asked d t := by
  obtain ⟨f, recorded, same, reached⟩ := h
  exact ⟨f, fetches f recorded, same, reached⟩

/-- The fetches on record are those that the gate has issued tickets to. -/
structure Recorded (c : Crowd) : Prop where
  run : Gate.Run c.session.gate c.history
  issued : ∀ t, .began t ∈ c.history ↔ ∃ f ∈ c.fetches, f.ticket = t
  last : c.fetches.head?.map Fetch.ticket = Gate.latest? c.history
  descending : c.fetches.Pairwise fun f g => g.ticket.number < f.ticket.number
  since : ∀ f ∈ c.fetches, f.since = f.moment.subHours? f.hours
  held : ∀ stage ∈ c.stages, ∀ t, stage.ticket? = some t → c.Asked t

namespace Recorded

theorem start : Recorded (ofSession (.fresh view zone tariff)) where
  run := .fresh
  issued := by simp [ofSession]
  last := rfl
  descending := .nil
  since := by simp [ofSession]
  held := by simp [ofSession]

/-- Whatever leaves gate and records alone and brings in no ticket keeps them in line. -/
theorem congr (h : Recorded c) (gate : d.session.gate = c.session.gate)
    (history : d.history = c.history) (fetches : d.fetches = c.fetches)
    (held : ∀ stage ∈ d.stages, ∀ t, stage.ticket? = some t → c.Asked t) : Recorded d where
  run := by rw [gate, history]; exact h.run
  issued := by rw [history, fetches]; exact h.issued
  last := by rw [history, fetches]; exact h.last
  descending := by rw [fetches]; exact h.descending
  since := by rw [fetches]; exact h.since
  held := fun x inside t holds => (held x inside t holds).mono fun _ old => fetches ▸ old

/-- The stages of a crowd after one of them was replaced by one that holds no new ticket. -/
theorem held_replaced (h : Recorded c) {before after : List Stage} {stage next : Stage}
    (here : c.stages = before ++ stage :: after)
    (new : ∀ t, next.ticket? = some t → c.Asked t) :
    ∀ x ∈ before ++ next :: after, ∀ t, x.ticket? = some t → c.Asked t := by
  intro x inside t holds
  rcases mem_replaced stage inside with rfl | old
  · exact new t holds
  · exact h.held x (here ▸ old) t holds

/-- The stages of a crowd after one of them has gone on without a ticket. -/
theorem held_free (h : Recorded c) {before after : List Stage} {stage next : Stage}
    (here : c.stages = before ++ stage :: after) (free : next.ticket? = none) :
    ∀ x ∈ before ++ next :: after, ∀ t, x.ticket? = some t → c.Asked t :=
  h.held_replaced here fun t holds => by rw [free] at holds; cases holds

theorem number_le (h : Recorded c) {f : Fetch} (recorded : f ∈ c.fetches) :
    f.ticket.number ≤ c.session.gate.issued :=
  (h.run.follows.number ((h.issued _).mpr ⟨f, recorded, rfl⟩)).2

theorem issued_of_asked (h : Recorded c) {t : Ticket} (asked : c.Asked t) :
    .began t ∈ c.history := by
  obtain ⟨f, recorded, same, -⟩ := asked
  exact (h.issued t).mpr ⟨f, recorded, same⟩

/-- The next ticket is a new one. -/
theorem not_asked_next (h : Recorded c) : ¬ c.Asked c.session.gate.nextTicket := by
  rintro ⟨f, recorded, same, -⟩
  have le := h.number_le recorded
  rw [same] at le
  exact absurd le (Nat.not_succ_le_self _)

/-- No two fetches have the same ticket. -/
theorem eq_of_ticket (h : Recorded c) {f g : Fetch} (first : f ∈ c.fetches) (second : g ∈ c.fetches)
    (same : f.ticket = g.ticket) : f = g := by
  have apart : c.fetches.Pairwise fun f g => f.ticket ≠ g.ticket :=
    h.descending.imp fun lt same => absurd (congrArg Ticket.number same) (Nat.ne_of_gt lt)
  refine List.Pairwise.forall_of_forall_of_flip (R := fun f g => f.ticket = g.ticket → f = g)
    (fun _ _ _ => rfl) ?_ ?_ first second same
  · exact apart.imp fun ne same => absurd same ne
  · exact apart.imp fun ne same => absurd same.symm ne

/-- The last fetch has the last ticket. -/
theorem number_head (h : Recorded c) {f : Fetch} {older : List Fetch}
    (fetches : c.fetches = f :: older) : f.ticket.number = c.session.gate.issued := by
  have last := h.last
  rw [fetches, h.run.follows.latest] at last
  split at last
  · cases last
  · simp only [List.head?_cons, Option.map_some, Option.some.injEq] at last
    rw [last]

theorem begin (h : Recorded c) {before after : List Stage} {goal : Goal} {now : Instant}
    {next : Stage} (here : c.stages = before ++ .begin goal :: after)
    (asked : next.since? = c.session.view.since? now)
    (goes : (∃ since, next = .fetching goal c.session.gate.nextTicket since) ∨
      ∃ fault, next = .crashed fault) :
    Recorded { c with
      session := { c.session with gate := c.session.gate.begin }
      stages := before ++ next :: after
      fetches := ⟨c.session.gate.nextTicket, now, c.session.view.hours, next.since?⟩ :: c.fetches
      history := .began c.session.gate.nextTicket :: c.history } where
  run := .meet .begin h.run trivial
  issued := by
    intro t
    simp only [List.mem_cons, Gate.Entry.began.injEq, h.issued, exists_eq_or_imp]
    exact or_congr eq_comm Iff.rfl
  last := rfl
  descending := by
    refine .cons (fun f recorded => ?_) h.descending
    exact Nat.lt_succ_of_le (h.number_le recorded)
  since := by
    intro f recorded
    rcases List.mem_cons.mp recorded with rfl | old
    · exact asked
    · exact h.since f old
  held := by
    intro x inside t holds
    rcases mem_replaced (.begin goal) inside with rfl | old
    · rcases goes with ⟨since, rfl⟩ | ⟨fault, rfl⟩
      · cases holds
        exact ⟨_, List.mem_cons_self, rfl, rfl⟩
      · cases holds
    · exact (h.held x (here ▸ old) t holds).mono fun _ => List.mem_cons_of_mem _

theorem settle (h : Recorded c) {before after : List Stage} {goal : Goal} {t : Ticket}
    {outcome : Except Failure Snapshot} {next : Stage}
    (here : c.stages = before ++ .settle goal t outcome :: after) (free : next.ticket? = none) :
    Recorded { c with
      session := { c.session with gate := c.session.gate.settle t outcome.toOption }
      stages := before ++ next :: after
      history :=
        .settled t outcome.toOption (c.session.gate.isLatest t) :: c.history } where
  run := by
    have issued : .began t ∈ c.history :=
      h.issued_of_asked (h.held _ (mem_holding here) t rfl)
    cases outcome with
    | ok snapshot => exact .meet (.apply t snapshot) h.run issued
    | error failure => exact .meet (.fail t) h.run issued
  issued := by
    intro u
    rw [← h.issued]
    simp
  last := h.last
  descending := h.descending
  since := h.since
  held := h.held_free here free

/-- Where a call goes once its ticket is settled, it holds none. -/
theorem free_of_settled {goal : Goal} {taken : Bool} {outcome : Except Failure Snapshot}
    {next : Stage}
    (goes : (∃ snapshot, outcome = .ok snapshot ∧ next = Stage.next goal taken) ∨
      ∃ failure shown, outcome = .error failure ∧ next = .done (.error shown)) :
    next.ticket? = none := by
  rcases goes with ⟨_, _, rfl⟩ | ⟨_, _, _, rfl⟩
  · cases goal <;> rfl
  · rfl

theorem step (h : Recorded c) (stepped : Step c m d) : Recorded d := by
  cases stepped with
  | stay => exact h
  | join call =>
    refine h.congr rfl rfl rfl fun x inside t holds => ?_
    rcases List.mem_append.mp inside with old | new
    · exact h.held x old t holds
    · rw [List.mem_singleton.mp new] at holds
      cases call <;> cases holds
  | @look before after q i now here =>
    refine h.congr rfl rfl rfl (h.held_free here ?_)
    split <;> rfl
  | @change before after wish session isNew i now here became =>
    have gate : session.gate = c.session.gate := by
      have := Stage.changeView_gate c.session wish
      rwa [became] at this
    refine h.congr gate rfl rfl (h.held_free here ?_)
    unfold Stage.changed
    split <;> rfl
  | begin here asked goes => exact h.begin here asked goes
  | reply here outcome =>
    refine h.congr rfl rfl rfl (h.held_replaced here fun u holds => ?_)
    exact h.held _ (mem_holding here) u holds
  | settle here goes => exact h.settle here (free_of_settled goes)
  | answer here ended noView =>
    exact h.congr rfl rfl rfl (h.held_free here (Stage.ticket_of_over ended))

end Recorded

/-! ## Tickets and replies -/

/-- A ticket is held by one call at most, and replied to once at most. -/
structure Answered (c : Crowd) : Prop where
  heldOnce : (c.stages.filterMap Stage.ticket?).Nodup
  replied : ∀ {t o}, (t, o) ∈ c.replies → c.Asked t
  waiting : ∀ {goal t since}, .fetching goal t since ∈ c.stages → ∀ o, (t, o) ∉ c.replies
  settling : ∀ {goal t o}, .settle goal t o ∈ c.stages → (t, o) ∈ c.replies
  once : ∀ {t o o'}, (t, o) ∈ c.replies → (t, o') ∈ c.replies → o = o'
  settled : ∀ {t a accepted}, .settled t (some a) accepted ∈ c.history → (t, .ok a) ∈ c.replies

namespace Answered

theorem start : Answered (ofSession s) where
  heldOnce := .nil
  replied := by simp [ofSession]
  waiting := by simp [ofSession]
  settling := by simp [ofSession]
  once := by simp [ofSession]
  settled := by simp [ofSession]

/-- Whatever only lets go of tickets, and brings no reply. -/
theorem congr (h : Answered c) (replies : d.replies = c.replies)
    (fetches : ∀ f ∈ c.fetches, f ∈ d.fetches)
    (tickets : (d.stages.filterMap Stage.ticket?).Sublist (c.stages.filterMap Stage.ticket?))
    (stages : ∀ x ∈ d.stages, x ∈ c.stages ∨ x.ticket? = none)
    (history : ∀ {t a accepted}, .settled t (some a) accepted ∈ d.history →
      .settled t (some a) accepted ∈ c.history ∨ (t, .ok a) ∈ c.replies) : Answered d where
  heldOnce := h.heldOnce.sublist tickets
  replied := fun inside => (h.replied (replies ▸ inside)).mono fetches
  waiting := by
    intro goal t since inside o
    rw [replies]
    rcases stages _ inside with old | free
    · exact h.waiting old o
    · cases free
  settling := by
    intro goal t o inside
    rw [replies]
    rcases stages _ inside with old | free
    · exact h.settling old
    · cases free
  once := by rw [replies]; exact h.once
  settled := by
    intro t a accepted inside
    rw [replies]
    exact (history inside).elim h.settled id

/-- A call that goes on without a ticket. -/
theorem free (h : Answered c) {before after : List Stage} {stage next : Stage}
    (here : c.stages = before ++ stage :: after) (free : next.ticket? = none)
    (stages : d.stages = before ++ next :: after) (replies : d.replies = c.replies)
    (fetches : ∀ f ∈ c.fetches, f ∈ d.fetches)
    (history : ∀ {t a accepted}, .settled t (some a) accepted ∈ d.history →
      .settled t (some a) accepted ∈ c.history ∨ (t, .ok a) ∈ c.replies) : Answered d := by
  refine h.congr replies fetches ?_ (fun x inside => ?_) history
  · rw [stages, here]
    exact tickets_sublist free
  · rw [stages] at inside
    rcases mem_replaced stage inside with rfl | old
    · exact .inr free
    · exact .inl (here ▸ old)

/-- A ticket that is held somewhere is held nowhere else. -/
theorem held_elsewhere (h : Answered c) {before after : List Stage} {stage x : Stage} {t : Ticket}
    (here : c.stages = before ++ stage :: after) (holds : stage.ticket? = some t)
    (inside : x ∈ before ++ after) : x.ticket? ≠ some t := by
  have once := h.heldOnce
  rw [here] at once
  simp only [List.filterMap_append, List.filterMap_cons, holds] at once
  rw [List.perm_middle.nodup_iff, List.nodup_cons, ← List.filterMap_append] at once
  intro again
  exact once.1 (List.mem_filterMap.mpr ⟨x, inside, again⟩)

theorem begin (h : Answered c) (r : Recorded c) {before after : List Stage} {goal : Goal}
    {since : Instant} (here : c.stages = before ++ .begin goal :: after) (f : Fetch) :
    Answered { c with
      session := { c.session with gate := c.session.gate.begin }
      stages := before ++ .fetching goal c.session.gate.nextTicket since :: after
      fetches := f :: c.fetches
      history := .began c.session.gate.nextTicket :: c.history } where
  heldOnce := by
    have unused : ∀ x ∈ before ++ after, x.ticket? ≠ some c.session.gate.nextTicket := by
      intro x inside holds
      have old : x ∈ c.stages := here ▸ mem_other inside
      exact r.not_asked_next (r.held x old _ holds)
    have once := h.heldOnce
    rw [here] at once
    simp only [List.filterMap_append, List.filterMap_cons, Stage.ticket?] at once ⊢
    rw [List.perm_middle.nodup_iff, List.nodup_cons, ← List.filterMap_append]
    rw [← List.filterMap_append] at once
    refine ⟨fun again => ?_, once⟩
    obtain ⟨x, inside, holds⟩ := List.mem_filterMap.mp again
    exact unused x inside holds
  replied := fun inside => (h.replied inside).mono fun _ => List.mem_cons_of_mem _
  waiting := by
    intro goal' t since' inside o replied
    rcases mem_replaced (.begin goal) inside with same | old
    · cases same
      exact r.not_asked_next (h.replied replied)
    · exact h.waiting (here ▸ old) o replied
  settling := by
    intro goal' t o inside
    rcases mem_replaced (.begin goal) inside with same | old
    · cases same
    · exact h.settling (here ▸ old)
  once := h.once
  settled := by
    intro t a accepted inside
    rcases List.mem_cons.mp inside with same | old
    · cases same
    · exact h.settled old

theorem reply (h : Answered c) (r : Recorded c) {before after : List Stage} {goal : Goal}
    {t : Ticket} {since : Instant} (here : c.stages = before ++ .fetching goal t since :: after)
    (outcome : Except Failure Snapshot) :
    Answered { c with
      stages := before ++ .settle goal t outcome :: after
      replies := (t, outcome) :: c.replies } where
  heldOnce := by
    have once := h.heldOnce
    rw [here] at once
    simpa [List.filterMap_append, List.filterMap_cons, Stage.ticket?] using once
  replied := by
    intro u o inside
    rcases List.mem_cons.mp inside with same | old
    · cases same
      exact r.held _ (mem_holding here) t rfl
    · exact h.replied old
  waiting := by
    intro goal' u since' inside o replied
    have other : .fetching goal' u since' ∈ before ++ after := by
      simpa using inside
    rcases List.mem_cons.mp replied with same | old
    · cases same
      exact h.held_elsewhere here rfl other rfl
    · have earlier : .fetching goal' u since' ∈ c.stages := here ▸ mem_other other
      exact h.waiting earlier o old
  settling := by
    intro goal' u o inside
    rcases mem_replaced (.fetching goal t since) inside with same | old
    · cases same
      exact List.mem_cons_self
    · exact List.mem_cons_of_mem _ (h.settling (here ▸ old))
  once := by
    have unanswered := h.waiting (mem_holding here)
    intro u o o' first second
    rcases List.mem_cons.mp first with same | old
    · cases same
      rcases List.mem_cons.mp second with same | old
      · cases same
        rfl
      · exact absurd old (unanswered o')
    · rcases List.mem_cons.mp second with same | old'
      · cases same
        exact absurd old (unanswered o)
      · exact h.once old old'
  settled := fun inside => List.mem_cons_of_mem _ (h.settled inside)

theorem step (h : Answered c) (r : Recorded c) (stepped : Step c m d) : Answered d := by
  cases stepped with
  | stay => exact h
  | join call =>
    refine h.congr rfl (fun _ => id) ?_ (fun x inside => ?_) .inl
    · have free : (Stage.ofCall call).ticket? = none := by cases call <;> rfl
      simp [List.filterMap_append, free]
    · rcases List.mem_append.mp inside with old | new
      · exact .inl old
      · rw [List.mem_singleton.mp new]
        cases call <;> exact .inr rfl
  | look here =>
    refine h.free here ?_ rfl rfl (fun _ => id) .inl
    split <;> rfl
  | change here became =>
    refine h.free here ?_ rfl rfl (fun _ => id) .inl
    unfold Stage.changed
    split <;> rfl
  | begin here asked goes =>
    rcases goes with ⟨since, rfl⟩ | ⟨fault, rfl⟩
    · exact h.begin r here _
    · refine h.free here rfl rfl rfl (fun _ => List.mem_cons_of_mem _) fun inside => ?_
      rcases List.mem_cons.mp inside with same | old
      · cases same
      · exact .inl old
  | reply here outcome => exact h.reply r here outcome
  | @settle before after goal t outcome next i now here goes =>
    refine h.free here (Recorded.free_of_settled goes) rfl rfl (fun _ => id) fun inside => ?_
    rcases List.mem_cons.mp inside with same | old
    · have replied := h.settling (mem_holding here)
      cases outcome with
      | ok snapshot => cases same; exact .inr replied
      | error failure => cases same
    · exact .inl old
  | answer here ended noView =>
    exact h.free here (Stage.ticket_of_over ended) rfl rfl (fun _ => id) .inl

end Answered

/-! ## The last ticket -/

/-- What has become of the last ticket. -/
inductive Newest (c : Crowd) : Prop
  | unissued (none : c.fetches = [])
  /-- A call holds it, or has crashed as it began. -/
  | pending (pending : c.session.gate.isPending = true)
      (somewhere : (∃ x ∈ c.stages, x.ticket? = some ⟨c.session.gate.issued⟩) ∨
        ∃ x ∈ c.stages, x.isCrashed = true)
  /-- Its reply was accepted, and is shown if it was a snapshot. -/
  | accepted (accepted : c.session.gate.isPending = false) {outcome : Except Failure Snapshot}
      (replied : (⟨c.session.gate.issued⟩, outcome) ∈ c.replies)
      (shown : ∀ snapshot, outcome = .ok snapshot → c.session.gate.current = some snapshot)

namespace Newest

theorem congr (h : Newest c) (gate : d.session.gate = c.session.gate)
    (fetches : d.fetches = c.fetches) (replies : ∀ r ∈ c.replies, r ∈ d.replies)
    (held : (∃ x ∈ c.stages, x.ticket? = some ⟨c.session.gate.issued⟩) →
      ∃ x ∈ d.stages, x.ticket? = some ⟨c.session.gate.issued⟩)
    (crashed : (∃ x ∈ c.stages, x.isCrashed = true) → ∃ x ∈ d.stages, x.isCrashed = true) :
    Newest d := by
  cases h with
  | unissued none => exact .unissued (fetches.trans none)
  | pending pending somewhere =>
    refine .pending (by rw [gate]; exact pending) ?_
    rw [gate]
    exact somewhere.imp held crashed
  | accepted accepted replied shown =>
    refine .accepted (by rw [gate]; exact accepted) ?_ (by rw [gate]; exact shown)
    rw [gate]
    exact replies _ replied

/-- A call that holds no ticket goes on. -/
theorem free (h : Newest c) {before after : List Stage} {stage next : Stage}
    (here : c.stages = before ++ stage :: after) (noTicket : stage.ticket? = none)
    (noCrash : stage.isCrashed = false) (gate : d.session.gate = c.session.gate)
    (fetches : d.fetches = c.fetches) (replies : d.replies = c.replies)
    (stages : d.stages = before ++ next :: after) : Newest d := by
  refine h.congr gate fetches (fun r inside => replies ▸ inside) (fun held => ?_) fun crashed => ?_
  · rw [stages]
    exact exists_kept here (fun holds => by rw [noTicket] at holds; cases holds) held
  · rw [stages]
    exact exists_kept here (fun holds => by rw [noCrash] at holds; cases holds) crashed

theorem begin (r : Recorded c) {before after : List Stage} {goal : Goal} {f : Fetch}
    {next : Stage} (goes : (∃ since, next = .fetching goal c.session.gate.nextTicket since) ∨
      ∃ fault, next = .crashed fault) :
    Newest { c with
      session := { c.session with gate := c.session.gate.begin }
      stages := before ++ next :: after
      fetches := f :: c.fetches
      history := .began c.session.gate.nextTicket :: c.history } := by
  have pending : c.session.gate.begin.isPending = true :=
    decide_eq_true (Nat.lt_succ_of_le r.run.follows.settled_le)
  refine .pending pending ?_
  rcases goes with ⟨since, rfl⟩ | ⟨fault, rfl⟩
  · exact .inl ⟨_, mem_next, rfl⟩
  · exact .inr ⟨_, mem_next, rfl⟩

theorem settle (h : Newest c) (a : Answered c) {before after : List Stage} {goal : Goal}
    {t : Ticket} {outcome : Except Failure Snapshot} {next : Stage}
    (here : c.stages = before ++ .settle goal t outcome :: after) :
    Newest { c with
      session := { c.session with gate := c.session.gate.settle t outcome.toOption }
      stages := before ++ next :: after
      history :=
        .settled t outcome.toOption (c.session.gate.isLatest t) :: c.history } := by
  cases latest : c.session.gate.isLatest t with
  | false =>
    -- an overtaken ticket is not the last one, so whoever holds that still does
    have gate := Gate.settle_of_refused outcome.toOption latest
    rw [gate]
    refine h.congr rfl rfl (fun _ => id) (fun held => ?_) fun crashed => ?_
    · refine exists_kept here (fun holds => ?_) held
      have number : t.number = c.session.gate.issued := by cases holds; rfl
      rw [Gate.isLatest_iff.mpr number] at latest
      cases latest
    · exact exists_kept here (fun holds => by cases holds) crashed
  | true =>
    have replied := a.settling (mem_holding here)
    have number_eq : t = ⟨c.session.gate.issued⟩ := by
      rw [← Gate.isLatest_iff.mp latest]
    rw [Gate.settle_of_accepted outcome.toOption latest]
    have settled : Gate.isPending (α := Snapshot)
        { c.session.gate with
          settled := c.session.gate.issued
          current := outcome.toOption.or c.session.gate.current } = false := by
      simp [Gate.isPending]
    rw [number_eq] at replied
    refine .accepted settled replied fun snapshot ok => ?_
    rw [ok]
    rfl

theorem step (h : Newest c) (r : Recorded c) (a : Answered c) (stepped : Step c m d) :
    Newest d := by
  cases stepped with
  | stay => exact h
  | join call =>
    refine h.congr rfl rfl (fun _ => id) (fun held => ?_) fun crashed => ?_
    · obtain ⟨x, inside, holds⟩ := held
      exact ⟨x, List.mem_append_left _ inside, holds⟩
    · obtain ⟨x, inside, holds⟩ := crashed
      exact ⟨x, List.mem_append_left _ inside, holds⟩
  | look here => exact h.free here rfl rfl rfl rfl rfl rfl
  | @change before after wish session isNew i now here became =>
    have gate := Stage.changeView_gate c.session wish
    rw [became] at gate
    exact h.free here rfl rfl gate rfl rfl rfl
  | begin here asked goes => exact begin r goes
  | reply here outcome =>
    refine h.congr rfl rfl (fun _ => List.mem_cons_of_mem _) (fun held => ?_) fun crashed => ?_
    · exact exists_kept here id held
    · exact exists_kept here id crashed
  | settle here goes => exact h.settle a here
  | answer here ended noView => exact h.free here rfl rfl rfl rfl rfl rfl

end Newest

/-! ## The hours of the last fetch -/

/-- The last fetch looked as far back as the view says, or some call is about to begin another. -/
def Timely (c : Crowd) : Prop :=
  (∀ f, c.fetches.head? = some f → f.hours = c.session.view.hours) ∨
    ∃ x ∈ c.stages, x.isBegin = true

namespace Timely

/-- A call goes on that keeps the hours. -/
theorem congr (h : Timely c) {before after : List Stage} {stage next : Stage}
    (here : c.stages = before ++ stage :: after) (notBegin : stage.isBegin = false)
    (hours : d.session.view.hours = c.session.view.hours) (fetches : d.fetches = c.fetches)
    (stages : d.stages = before ++ next :: after) : Timely d := by
  rcases h with timely | beginning
  · left
    rw [fetches, hours]
    exact timely
  · right
    rw [stages]
    exact exists_kept here (fun begins => by rw [notBegin] at begins; cases begins) beginning

theorem step (h : Timely c) (stepped : Step c m d) : Timely d := by
  cases stepped with
  | stay => exact h
  | join call =>
    refine h.imp id fun ⟨x, inside, begins⟩ => ?_
    exact ⟨x, List.mem_append_left _ inside, begins⟩
  | look here => exact h.congr here rfl rfl rfl rfl
  | @change before after wish session isNew i now here became =>
    cases isNew with
    | true => exact .inr ⟨_, mem_next, rfl⟩
    | false =>
      have kept := Stage.changeView_hours (s := c.session) (c := wish) (by rw [became])
      rw [became] at kept
      exact h.congr here rfl kept rfl rfl
  | begin here asked goes =>
    left
    intro f head
    cases head
    rfl
  | reply here outcome => exact h.congr here rfl rfl rfl rfl
  | settle here goes => exact h.congr here rfl rfl rfl rfl
  | answer here ended noView => exact h.congr here rfl rfl rfl rfl

end Timely

/-! ## Everything that can be reached -/

/-- What holds of every crowd that a fresh session can get to. -/
structure Sound (c : Crowd) : Prop where
  recorded : Recorded c
  answered : Answered c
  newest : Newest c
  timely : Timely c

theorem Sound.step (h : Sound c) (stepped : Step c m d) : Sound d where
  recorded := h.recorded.step stepped
  answered := h.answered.step h.recorded stepped
  newest := h.newest.step h.recorded h.answered stepped
  timely := h.timely.step stepped

theorem Sound.start (view : View) (zone : Zone) (tariff : Tariff) :
    Sound (ofSession (.fresh view zone tariff)) where
  recorded := .start
  answered := .start
  newest := .unissued rfl
  timely := .inl (by simp [ofSession])

theorem Reachable.sound {view : View} {zone : Zone} {tariff : Tariff}
    (reachable : Reachable (.fresh view zone tariff) c) : Sound c := by
  induction reachable with
  | start => exact .start view zone tariff
  | move m _ ih => exact ih.step (move_step _ m)

namespace Sound

/-- Once every call is over, the last fetch has the hours of the view. -/
theorem hours_eq (h : Sound c) (ended : ∀ x ∈ c.stages, x.isOver = true) {f : Fetch}
    {older : List Fetch} (fetches : c.fetches = f :: older) :
    f.hours = c.session.view.hours := by
  rcases h.timely with timely | ⟨x, inside, begins⟩
  · exact timely f (by rw [fetches]; rfl)
  · rw [Stage.isBegin_of_over (ended x inside)] at begins
    cases begins

/-- A fetch that was replied to asked for what its hours say. -/
theorem since_of_replied (h : Sound c) {f : Fetch} {outcome : Except Failure Snapshot}
    (recorded : f ∈ c.fetches) (replied : (f.ticket, outcome) ∈ c.replies) :
    ∃ since, f.since = some since ∧ f.moment.subHours? f.hours = some since := by
  obtain ⟨g, recorded', same, reached⟩ := h.answered.replied replied
  rw [h.recorded.eq_of_ticket recorded' recorded same] at reached
  obtain ⟨since, asked⟩ := Option.isSome_iff_exists.mp reached
  refine ⟨since, asked, ?_⟩
  rw [← h.recorded.since f recorded]
  exact asked

end Sound

end Crowd

end HouseholdDashboard
