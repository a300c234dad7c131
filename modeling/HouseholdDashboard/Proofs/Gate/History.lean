import HouseholdDashboard.Gate

/-!
# Histories of the gate

A run of the gate is any sequence of requests in which only tickets that were issued are handed
in: in any order, late, and more than once.  Its history lists what was asked and what came of
it, the latest first.

The history decides everything that the gate shows.  A ticket is accepted exactly when it is the
last one issued, what is current is the last accepted value, and the gate is pending exactly while
the last ticket issued has not been accepted (`Follows`, `Run.follows`).  What is shown never goes
back to an earlier ticket (`Run.shown_le`).
-/

namespace HouseholdDashboard

namespace Gate

/-- What can be asked of a gate. -/
inductive Request (α : Type u) where
  | begin
  | apply (ticket : Ticket) (value : α)
  | fail (ticket : Ticket)

/-- What was asked of a gate, and what came of it. -/
inductive Entry (α : Type u) where
  /-- A fetch began, with this ticket. -/
  | began (ticket : Ticket)
  /-- A ticket was handed in, with a value or without one. -/
  | settled (ticket : Ticket) (value : Option α) (accepted : Bool)
deriving DecidableEq

/-- Hand in a ticket, with a value or without one. -/
def settle (g : Gate α) (t : Ticket) : Option α → Gate α
  | some a => g.apply t a
  | none => g.fail t

/-- The gate after a request, and the entry for it. -/
def meet (g : Gate α) : Request α → Gate α × Entry α
  | .begin => (g.begin, .began g.nextTicket)
  | .apply t a => (g.apply t a, .settled t (some a) (g.isLatest t))
  | .fail t => (g.fail t, .settled t none (g.isLatest t))

/-- Only tickets that were issued can be handed in. -/
def Request.Allowed (history : List (Entry α)) : Request α → Prop
  | .begin => True
  | .apply t _ => .began t ∈ history
  | .fail t => .began t ∈ history

/-- A fresh gate after some requests, and their history. -/
inductive Run : Gate α → List (Entry α) → Prop
  | fresh : Run fresh []
  | meet {g : Gate α} {history : List (Entry α)} (r : Request α) (run : Run g history)
      (allowed : r.Allowed history) : Run (g.meet r).1 ((g.meet r).2 :: history)

/-! ## Reading a history -/

/-- The ticket that was issued last. -/
def latest? : List (Entry α) → Option Ticket
  | [] => none
  | .began t :: _ => some t
  | .settled .. :: older => latest? older

/-- The last value that was accepted, with its ticket. -/
def shown? : List (Entry α) → Option (Ticket × α)
  | [] => none
  | .settled t (some a) true :: _ => some (t, a)
  | _ :: older => shown? older

/-- Some ticket was issued, and nothing was accepted or issued since. -/
def Unsettled (history : List (Entry α)) : Prop :=
  ∃ newer t older, history = newer ++ .began t :: older ∧
    ∀ e ∈ newer, ∃ t value, e = .settled t value false

/-- Some value was handed in before its ticket was overtaken. -/
def InTime (history : List (Entry α)) : Prop :=
  ∃ newer t a accepted older, history = newer ++ .settled t (some a) accepted :: older ∧
    latest? older = some t

theorem unsettled_began (t : Ticket) (older : List (Entry α)) : Unsettled (.began t :: older) :=
  ⟨[], t, older, rfl, by simp⟩

/-- A refused ticket leaves open what was open. -/
theorem unsettled_refused {t : Ticket} {value : Option α} {older : List (Entry α)} :
    Unsettled (.settled t value false :: older) ↔ Unsettled older := by
  constructor
  · rintro ⟨newer, u, rest, split, refused⟩
    cases newer with
    | nil => cases split
    | cons e newer =>
      simp only [List.cons_append, List.cons.injEq] at split
      exact ⟨newer, u, rest, split.2, fun e he => refused e (List.mem_cons_of_mem _ he)⟩
  · rintro ⟨newer, u, rest, split, refused⟩
    refine ⟨.settled t value false :: newer, u, rest, by rw [split]; rfl, fun e he => ?_⟩
    rcases List.mem_cons.mp he with rfl | he
    · exact ⟨t, value, rfl⟩
    · exact refused e he

theorem not_unsettled_accepted {t : Ticket} {value : Option α} {older : List (Entry α)} :
    ¬ Unsettled (.settled t value true :: older) := by
  rintro ⟨newer, u, rest, split, refused⟩
  cases newer with
  | nil => cases split
  | cons e newer =>
    simp only [List.cons_append, List.cons.injEq] at split
    obtain ⟨_, _, h⟩ := refused e List.mem_cons_self
    rw [← split.1] at h
    cases h

/-- Nothing is shown exactly when no value was accepted. -/
theorem shown?_eq_none_iff {history : List (Entry α)} :
    shown? history = none ↔ ∀ t a, .settled t (some a) true ∉ history := by
  induction history with
  | nil => simp [shown?]
  | cons e older ih =>
    match e with
    | .began u => simp [shown?, ih]
    | .settled u none b => simp [shown?, ih]
    | .settled u (some b) false => simp [shown?, ih]
    | .settled u (some b) true =>
      simp only [shown?, reduceCtorEq, false_iff]
      exact fun h => h u b List.mem_cons_self

theorem mem_of_shown? {history : List (Entry α)} {t : Ticket} {a : α}
    (h : shown? history = some (t, a)) : .settled t (some a) true ∈ history := by
  induction history with
  | nil => cases h
  | cons e older ih =>
    match e with
    | .began u => exact List.mem_cons_of_mem _ (ih h)
    | .settled u none b => exact List.mem_cons_of_mem _ (ih h)
    | .settled u (some b) false => exact List.mem_cons_of_mem _ (ih h)
    | .settled u (some b) true => cases h; exact List.mem_cons_self

/-! ## One request -/

theorem isLatest_iff {g : Gate α} {t : Ticket} : g.isLatest t = true ↔ t.number = g.issued := by
  simp [isLatest]

/-- A refused ticket leaves the whole gate as it was. -/
theorem settle_of_refused {g : Gate α} {t : Ticket} (value : Option α)
    (refused : g.isLatest t = false) : g.settle t value = g := by
  cases value <;> simp [settle, apply, fail, refused]

theorem settle_of_accepted {g : Gate α} {t : Ticket} (value : Option α)
    (accepted : g.isLatest t = true) :
    g.settle t value = { g with settled := g.issued, current := value.or g.current } := by
  have number : t.number = g.issued := isLatest_iff.mp accepted
  cases value <;> simp [settle, apply, fail, accepted, number]

/-- A request begins a fetch, or hands in a ticket with a value or without one. -/
theorem Request.begin_or_settle (r : Request α) :
    r = .begin ∨ ∃ t value,
      (∀ g : Gate α, g.meet r = (g.settle t value, .settled t value (g.isLatest t))) ∧
      ∀ history, r.Allowed history ↔ .began t ∈ history := by
  cases r with
  | begin => exact .inl rfl
  | apply t a => exact .inr ⟨t, some a, fun _ => rfl, fun _ => Iff.rfl⟩
  | fail t => exact .inr ⟨t, none, fun _ => rfl, fun _ => Iff.rfl⟩

/-! ## What a history says about its gate -/

/-- The gate shows what its history says. -/
structure Follows (g : Gate α) (history : List (Entry α)) : Prop where
  number : ∀ {t}, .began t ∈ history → 1 ≤ t.number ∧ t.number ≤ g.issued
  latest : latest? history = if g.issued = 0 then none else some ⟨g.issued⟩
  current : g.current = (shown? history).map Prod.snd
  shown_le : ∀ {t a}, shown? history = some (t, a) → t.number ≤ g.issued
  settled_le : g.settled ≤ g.issued
  pending : g.settled < g.issued ↔ Unsettled history

namespace Follows

variable {g : Gate α} {history : List (Entry α)}

theorem fresh : Follows (fresh : Gate α) [] where
  number := by simp
  latest := rfl
  current := rfl
  shown_le := by simp [shown?]
  settled_le := Nat.le_refl _
  pending := by simp [Gate.fresh, Unsettled]

/-- A ticket that was issued is the latest exactly when it is the last one issued. -/
theorem isLatest_iff (h : Follows g history) {t : Ticket} (issued : .began t ∈ history) :
    g.isLatest t = true ↔ latest? history = some t := by
  obtain ⟨positive, le⟩ := h.number issued
  have someIssued : g.issued ≠ 0 := by omega
  obtain ⟨n⟩ := t
  rw [Gate.isLatest_iff, h.latest, if_neg someIssued]
  simp [eq_comm]

theorem begin (h : Follows g history) : Follows g.begin (.began g.nextTicket :: history) where
  number := by
    intro t issued
    rcases List.mem_cons.mp issued with same | earlier
    · cases same
      simp [Gate.begin, nextTicket]
    · have := h.number earlier
      simp only [Gate.begin]
      omega
  latest := by simp [latest?, Gate.begin, nextTicket]
  current := h.current
  shown_le := by
    intro t a shown
    exact Nat.le_succ_of_le (h.shown_le shown)
  settled_le := Nat.le_succ_of_le h.settled_le
  pending := by
    have open' : g.settled < g.issued + 1 := Nat.lt_succ_of_le h.settled_le
    simp [Gate.begin, open', unsettled_began]

/-- A refused ticket changes neither the gate nor what the history says. -/
theorem refused (h : Follows g history) {t : Ticket} {value : Option α}
    (not_latest : g.isLatest t = false) :
    Follows (g.settle t value) (.settled t value false :: history) := by
  rw [settle_of_refused value not_latest]
  have shown : shown? (.settled t value false :: history) = shown? history := by
    cases value <;> rfl
  exact {
    number := fun issued => h.number (by simpa using issued)
    latest := h.latest
    current := shown ▸ h.current
    shown_le := fun s => h.shown_le (shown ▸ s)
    settled_le := h.settled_le
    pending := h.pending.trans unsettled_refused.symm }

theorem accepted (h : Follows g history) {t : Ticket} {value : Option α}
    (is_latest : g.isLatest t = true) :
    Follows (g.settle t value) (.settled t value true :: history) := by
  rw [settle_of_accepted value is_latest]
  have number : t.number = g.issued := Gate.isLatest_iff.mp is_latest
  exact {
    number := fun issued => h.number (by simpa using issued)
    latest := h.latest
    current := by
      cases value with
      | none => simpa [shown?] using h.current
      | some a => simp [shown?]
    shown_le := by
      intro u a shown
      cases value with
      | none => exact h.shown_le shown
      | some b =>
        cases shown
        exact Nat.le_of_eq number
    settled_le := Nat.le_refl _
    pending := by simp [not_unsettled_accepted] }

/-- Every request keeps the gate in line with its history. -/
theorem meet (h : Follows g history) {r : Request α} :
    Follows (g.meet r).1 ((g.meet r).2 :: history) := by
  rcases r.begin_or_settle with rfl | ⟨t, value, met, -⟩
  · exact h.begin
  · rw [met]
    cases latest : g.isLatest t with
    | false => exact h.refused latest
    | true => exact h.accepted latest

end Follows

/-! ## Runs -/

namespace Run

variable {g : Gate α} {history : List (Entry α)}

theorem follows (run : Run g history) : Follows g history := by
  induction run with
  | fresh => exact .fresh
  | meet r _ _ ih => exact ih.meet

/-- What was handed in had been issued. -/
theorem began_of_settled (run : Run g history) {t : Ticket} {value : Option α} {accepted : Bool}
    (settled : .settled t value accepted ∈ history) : .began t ∈ history := by
  induction run with
  | fresh => cases settled
  | @meet g history r run allowed ih =>
    refine List.mem_cons_of_mem _ ?_
    rcases List.mem_cons.mp settled with same | earlier
    · rcases r.begin_or_settle with rfl | ⟨u, value', met, allowed_iff⟩
      · cases same
      · rw [met] at same
        cases same
        exact (allowed_iff _).mp allowed
    · exact ih earlier

/-- What was accepted was the latest at its time, and what was refused was not. -/
theorem accepted_iff (run : Run g history) {newer older : List (Entry α)} {t : Ticket}
    {value : Option α} {accepted : Bool}
    (split : history = newer ++ .settled t value accepted :: older) :
    accepted = true ↔ latest? older = some t := by
  induction run generalizing newer with
  | fresh => simp at split
  | @meet g history r run allowed ih =>
    cases newer with
    | cons e newer =>
      simp only [List.cons_append, List.cons.injEq] at split
      exact ih split.2
    | nil =>
      simp only [List.nil_append, List.cons.injEq] at split
      obtain ⟨entry, rfl⟩ := split
      rcases r.begin_or_settle with rfl | ⟨u, value', met, allowed_iff⟩
      · cases entry
      · rw [met] at entry
        cases entry
        exact run.follows.isLatest_iff ((allowed_iff _).mp allowed)

/-- Something is shown exactly when some value was handed in in time. -/
theorem current_isSome_iff (run : Run g history) : g.current.isSome = true ↔ InTime history := by
  rw [run.follows.current, Option.isSome_map]
  constructor
  · intro shown
    obtain ⟨⟨t, a⟩, shown⟩ := Option.isSome_iff_exists.mp shown
    obtain ⟨newer, older, split⟩ := List.append_of_mem (mem_of_shown? shown)
    exact ⟨newer, t, a, true, older, split, (run.accepted_iff split).mp rfl⟩
  · rintro ⟨newer, t, a, accepted, older, split, in_time⟩
    rw [(run.accepted_iff split).mpr in_time] at split
    rw [Option.isSome_iff_ne_none, ne_eq, shown?_eq_none_iff]
    intro never
    exact never t a (by simp [split])

/-- The number of the value that is shown never falls. -/
theorem shown_le (run : Run g history) {older : List (Entry α)} (earlier : older <:+ history)
    {t : Ticket} {a : α} (shown : shown? older = some (t, a)) :
    ∃ u b, shown? history = some (u, b) ∧ t.number ≤ u.number := by
  induction run with
  | fresh =>
    rw [List.suffix_nil.mp earlier] at shown
    cases shown
  | @meet g history r run allowed ih =>
    rcases List.suffix_cons_iff.mp earlier with rfl | earlier
    · exact ⟨t, a, shown, Nat.le_refl _⟩
    · obtain ⟨u, b, now, le⟩ := ih earlier
      rcases r.begin_or_settle with rfl | ⟨v, value, met, -⟩
      · exact ⟨u, b, now, le⟩
      · rw [met]
        cases latest : g.isLatest v with
        | false =>
          refine ⟨u, b, ?_, le⟩
          cases value <;> exact now
        | true =>
          cases value with
          | none => exact ⟨u, b, now, le⟩
          | some c =>
            refine ⟨v, c, rfl, Nat.le_trans le ?_⟩
            rw [Gate.isLatest_iff.mp latest]
            exact run.follows.shown_le now

end Run

/-- A ticket that was issued is accepted exactly when it is the last one issued; a refused one
changes nothing and a failure never changes what is current, which is the last accepted value and
so never goes back to an earlier ticket; and the gate is pending exactly while nothing has been
accepted for the last ticket. -/
theorem newest_wins {g : Gate α} {history : List (Entry α)} (run : Run g history) :
    .began g.nextTicket ∉ history ∧
    (∀ t, .began t ∈ history → ∀ a,
      (g.meet (.apply t a)).2 = .settled t (some a) (decide (latest? history = some t)) ∧
      (g.meet (.fail t)).2 = .settled t none (decide (latest? history = some t)) ∧
      (latest? history ≠ some t → (g.meet (.apply t a)).1 = g ∧ (g.meet (.fail t)).1 = g) ∧
      (g.meet (.fail t)).1.current = g.current) ∧
    g.current = (shown? history).map Prod.snd ∧
    (∀ older, older <:+ history → ∀ t a, shown? older = some (t, a) →
      ∃ u b, shown? history = some (u, b) ∧ t.number ≤ u.number) ∧
    (g.isPending = true ↔ Unsettled history) := by
  have follows := run.follows
  refine ⟨fun again => ?_, fun t issued a => ?_, follows.current,
    fun _ earlier _ _ => run.shown_le earlier, ?_⟩
  · have le : g.issued + 1 ≤ g.issued := (follows.number again).2
    omega
  · have latest : g.isLatest t = decide (latest? history = some t) := by
      rw [Bool.eq_iff_iff, decide_eq_true_iff]
      exact follows.isLatest_iff issued
    refine ⟨by rw [← latest]; rfl, by rw [← latest]; rfl, fun overtaken => ?_, ?_⟩
    · have refused : g.isLatest t = false := by rw [latest, decide_eq_false overtaken]
      exact ⟨settle_of_refused (some a) refused, settle_of_refused none refused⟩
    · show (g.fail t).current = g.current
      unfold fail
      split <;> rfl
  · rw [← follows.pending]
    simp [isPending]

/-- Two fetches overlap, and the first comes in after the second has begun. -/
theorem run_overtaken : Run (⟨2, 2, some 20⟩ : Gate Nat)
    [.settled ⟨2⟩ (some 20) true, .settled ⟨1⟩ (some 10) false, .began ⟨2⟩, .began ⟨1⟩] :=
  .meet (.apply ⟨2⟩ 20)
    (.meet (.apply ⟨1⟩ 10) (.meet .begin (.meet .begin .fresh trivial) trivial)
      (.tail _ (.head _)))
    (.tail _ (.head _))

theorem newest_wins_overtaken :
    Run (⟨2, 2, some 20⟩ : Gate Nat)
      [.settled ⟨2⟩ (some 20) true, .settled ⟨1⟩ (some 10) false, .began ⟨2⟩, .began ⟨1⟩] ∧
    (meet (⟨2, 2, some 20⟩ : Gate Nat) (.apply ⟨1⟩ 11)).1 = ⟨2, 2, some 20⟩ ∧
    (meet (⟨2, 2, some 20⟩ : Gate Nat) (.apply ⟨1⟩ 11)).2 = .settled ⟨1⟩ (some 11) false ∧
    (meet (⟨2, 2, some 20⟩ : Gate Nat) (.apply ⟨2⟩ 21)).2 = .settled ⟨2⟩ (some 21) true :=
  have wins := (newest_wins run_overtaken).2.1
  have first := wins ⟨1⟩ (by decide) 11
  have second := wins ⟨2⟩ (by decide) 21
  ⟨run_overtaken, (first.2.2.1 (by decide)).1, first.1, second.1⟩

end Gate

end HouseholdDashboard
