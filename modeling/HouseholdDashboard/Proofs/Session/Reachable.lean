import HouseholdDashboard.Proofs.Chart.Viewport
import HouseholdDashboard.Proofs.Session.Drawing
import HouseholdDashboard.Proofs.Session.Frame

/-!
# What becomes of a session

A session can be operated on in any order, with any tickets and at any times; operations whose
arithmetic has no result are not part of a run.  The viewport of a session has come about by
changes of a viewport alone (`Reachable.viewport_reachable`), so that what holds of every viewport
holds of every timeline that is drawn.  This is so even after a question that broke off
(`answer_viewport_reachable`).
-/

namespace HouseholdDashboard

namespace Session

/-! ## Operations -/

/-- What can be done to a session. -/
inductive Operation where
  | setTab (tab : Tab)
  | setHours (hours : Nat)
  | begin (now : Instant)
  | finish (ticket : Ticket) (snapshot : Snapshot)
  | fail (ticket : Ticket)
  | ask (question : Question) (now : Instant)
deriving DecidableEq

/-- The session after an operation. -/
def operate (s : Session) : Operation → Except ArithmeticFault Session
  | .setTab tab => .ok (s.setTab tab)
  | .setHours hours => .ok (s.setHours hours).1
  | .begin now => (s.beginRefresh now).map (·.1)
  | .finish ticket snapshot => .ok (s.finishRefresh ticket snapshot).1
  | .fail ticket => .ok (s.failRefresh ticket).1
  | .ask question now =>
    match question.answer s now with
    | (_, .error (.arithmetic fault)) => .error fault
    | (after, _) => .ok after

theorem operate_begin_eq {s s' : Session} {now : Instant}
    (became : s.operate (.begin now) = .ok s') : s' = { s with gate := s.gate.begin } := by
  simp only [operate, beginRefresh] at became
  split at became
  · cases became
    rfl
  · cases became

theorem answer_of_operate {s s' : Session} {q : Question} {now : Instant}
    (became : s.operate (.ask q now) = .ok s') : (q.answer s now).1 = s' := by
  simp only [operate] at became
  split at became
  · cases became
  · rename_i answered
    cases became
    rw [answered]

/-- The session after an operation; one that has no result is passed over. -/
def advance (s : Session) (op : Operation) : Session :=
  match s.operate op with
  | .ok after => after
  | .error _ => s

/-- The sessions that one can become. -/
inductive Reachable (start : Session) : Session → Prop
  | start : Reachable start start
  | operate {s s' : Session} (op : Operation) (before : Reachable start s)
      (became : s.operate op = .ok s') : Reachable start s'

theorem Reachable.advance {start s : Session} (reachable : Reachable start s) (op : Operation) :
    Reachable start (s.advance op) := by
  unfold Session.advance
  cases became : s.operate op with
  | error fault => exact reachable
  | ok s' => exact reachable.operate op became

theorem Reachable.advances {start s : Session} (reachable : Reachable start s)
    (ops : List Operation) : Reachable start (ops.foldl Session.advance s) := by
  induction ops generalizing s with
  | nil => exact reachable
  | cons op ops ih => exact ih (reachable.advance op)

/-! ## The viewport -/

theorem syncedViewport_reachable {s : Session} (sound : ∀ v, s.viewport = some v → v.Reachable)
    (marks : List Mark) (now : Instant) : (s.syncedViewport marks now).Reachable := by
  have before : (s.viewport.getD (.ofExtent (s.extent marks now))).Reachable := by
    cases seen : s.viewport with
    | none => exact .start _
    | some v => exact sound v seen
  exact before.change (c := .setFull (s.extent marks now)) rfl

theorem moved_reachable {q : Question} {v w : Viewport} (reachable : v.Reachable)
    (moved : q.moved v = .ok w) : w.Reachable := by
  cases q with
  | viewport action => exact reachable.change ((action.apply_eq_change v).symm.trans moved)
  | timeline => cases moved; exact reachable
  | visibility action => cases moved; exact reachable
  | energy => cases moved; exact reachable
  | overview => cases moved; exact reachable

theorem brokenOff_reachable {q : Question} {v : Viewport} (reachable : v.Reachable) :
    (q.brokenOff v).Reachable := by
  cases q with
  | viewport action =>
    cases action with
    | setWindow window => exact reachable.change (c := .endDrag) rfl
    | _ => exact reachable
  | _ => exact reachable

/-- A timeline shows the viewport that the session then has, and one that can come about. -/
theorem answer_viewport {q : Question} {s s' : Session} {now : Instant} {t : Timeline}
    (sound : ∀ v, s.viewport = some v → v.Reachable)
    (answered : q.answer s now = (s', .ok (.timeline t))) :
    ∃ v : Viewport, s'.viewport = some v ∧ v.Reachable ∧ t.window = v.current ∧
      t.fullExtent = v.full ∧ t.zoomed = v.isZoomed ∧ t.dragging = v.isDragging := by
  obtain ⟨marks, v, _, moved, became, drawn⟩ := Question.answer_timeline answered
  obtain ⟨window, full, zoomed, dragging, _⟩ := Timeline.draw_eq_ok drawn
  exact ⟨v, by rw [became], moved_reachable (syncedViewport_reachable sound marks now) moved,
    window, full, zoomed, dragging⟩

/-- Whatever a question comes to, it leaves a viewport that can come about. -/
theorem answer_viewport_reachable {q : Question} {s : Session} {now : Instant}
    (sound : ∀ v, s.viewport = some v → v.Reachable) :
    ∀ v, (q.answer s now).1.viewport = some v → v.Reachable := by
  cases draws : q.draws with
  | false =>
    rw [(Question.answer_of_not_draws s now draws).1]
    exact sound
  | true =>
    rw [Question.answer_eq_drawing s now draws, Prod.map_fst, id]
    cases read : s.marks with
    | error fault =>
      rw [drawing_of_data read]
      exact sound
    | ok marks =>
      have synced := syncedViewport_reachable sound marks now
      cases moved : q.moved (s.syncedViewport marks now) with
      | error fault =>
        rw [drawing_of_not_moved read moved]
        rintro v ⟨⟩
        exact brokenOff_reachable synced
      | ok w =>
        rw [drawing_of_moved read moved]
        rintro v ⟨⟩
        exact moved_reachable synced moved

theorem operate_viewport_reachable {s s' : Session} {op : Operation}
    (became : s.operate op = .ok s') (sound : ∀ v, s.viewport = some v → v.Reachable) :
    ∀ v, s'.viewport = some v → v.Reachable := by
  cases op with
  | setTab tab =>
    cases became
    exact sound
  | setHours hours =>
    cases became
    rw [setHours_eq]
    split
    · exact fun v seen => by cases seen
    · exact sound
  | begin now =>
    cases operate_begin_eq became
    exact sound
  | finish ticket snapshot =>
    cases became
    exact sound
  | fail ticket =>
    cases became
    exact sound
  | ask q now =>
    rw [← answer_of_operate became]
    exact answer_viewport_reachable sound

theorem Reachable.viewport_reachable {view : View} {zone : Zone} {tariff : Tariff} {s : Session}
    (reachable : Reachable (fresh view zone tariff) s) :
    ∀ v, s.viewport = some v → v.Reachable := by
  induction reachable with
  | start => exact fun v seen => by cases seen
  | operate op _ became sound => exact operate_viewport_reachable became sound

/-! ## What is shown -/

/-- Every viewport shows a window that is not inverted and lies inside of its full extent, all of
it unless it is zoomed; and so does every timeline of every session. -/
theorem shown_within_extent :
    (∀ v : Viewport, v.Reachable →
      v.full.start ≤ v.current.start ∧ v.current.start ≤ v.current.stop ∧
      v.current.stop ≤ v.full.stop ∧ (v.isZoomed = false → v.current = v.full)) ∧
    ∀ (view : View) (zone : Zone) (tariff : Tariff) (s : Session),
      Reachable (fresh view zone tariff) s →
      ∀ (q : Question) (now : Instant) (s' : Session) (t : Timeline),
        q.answer s now = (s', .ok (.timeline t)) →
        t.fullExtent.start ≤ t.window.start ∧ t.window.start ≤ t.window.stop ∧
        t.window.stop ≤ t.fullExtent.stop ∧ (t.zoomed = false → t.window = t.fullExtent) := by
  have shows : ∀ v : Viewport, v.Reachable →
      v.full.start ≤ v.current.start ∧ v.current.start ≤ v.current.stop ∧
      v.current.stop ≤ v.full.stop ∧ (v.isZoomed = false → v.current = v.full) := by
    intro v reachable
    obtain ⟨starts, stops⟩ := reachable.current_within
    exact ⟨starts, v.current.start_le_stop, stops, Viewport.current_of_not_zoomed⟩
  refine ⟨shows, fun view zone tariff s reachable q now s' t answered => ?_⟩
  obtain ⟨v, _, came, window, full, zoomed, _⟩ :=
    answer_viewport reachable.viewport_reachable answered
  rw [window, full, zoomed]
  exact shows v came

theorem whole_second_lt : 0 < 2000000000 := by decide

/-- Noon of the first day of 1970. -/
def noon : Instant := ⟨43200, 0, by decide, by decide, whole_second_lt⟩

/-- A gate that opened as 1970 began, zoomed in on. -/
def zoomedIn : Session :=
  [.begin noon, .finish ⟨1⟩ { doors := [⟨"e1", "gate", .known .doorOpen, "0"⟩] },
    .ask (.viewport .zoomIn) noon].foldl advance (fresh {} .utc {})

theorem shown_within_extent_panned :
    Viewport.panned.Reachable ∧ Viewport.panned.current.start.count = 500 ∧
    Viewport.panned.current.start ≤ Viewport.panned.current.stop ∧
    Viewport.panned.current.stop ≤ Viewport.panned.full.stop ∧
    Reachable (fresh {} .utc {}) zoomedIn ∧
    zoomedIn.viewport.map (·.current.width.count) = some 1 ∧
    ∃ s' t, Question.timeline.answer zoomedIn noon = (s', .ok (.timeline t)) ∧
      t.fullExtent.start ≤ t.window.start ∧ t.window.stop ≤ t.fullExtent.stop := by
  have panned : Viewport.panned.Reachable := (Viewport.Reachable.start _).advances _
  have zoomed : Reachable (fresh {} .utc {}) zoomedIn := Reachable.start.advances _
  obtain ⟨s', t, answered⟩ : ∃ s' t, Question.timeline.answer zoomedIn noon =
      (s', .ok (.timeline t)) := Question.exists_timeline rfl (by decide +kernel)
  obtain ⟨_, ordered, stops, _⟩ := shown_within_extent.1 _ panned
  obtain ⟨first, _, last, _⟩ := shown_within_extent.2 _ _ _ _ zoomed _ _ _ _ answered
  exact ⟨panned, by decide +kernel, ordered, stops, zoomed, by decide +kernel,
    s', t, answered, first, last⟩

end Session

end HouseholdDashboard
