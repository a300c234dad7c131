import HouseholdDashboard.Service.Call

/-!
# Questions that are answered with a timeline

The timeline, an action on the viewport and an action on what is shown are answered alike: the
viewport is brought in line with the data, the action is applied, and what results is drawn
(`answer_eq_drawing`).  The marks may be unreadable (`drawing_of_data`) or the arithmetic of the
action may have no result (`drawing_of_not_moved`); in every other case the viewport and the
filters are changed, and then drawn (`drawing_of_moved`).  `answer_timeline` says what a timeline
was computed from.
-/

namespace HouseholdDashboard

namespace Question

/-- Whether a question is answered with a timeline. -/
def draws : Question → Bool
  | timeline | viewport _ | visibility _ => true
  | energy | overview => false

/-- What a question makes of a viewport that is in line with the data. -/
def moved : Question → Viewport → Except ArithmeticFault Viewport
  | viewport action, v => action.apply v
  | _, v => .ok v

/-- What a question has made of it by the time that turns out to have no result. -/
def brokenOff : Question → Viewport → Viewport
  | viewport action, v => action.brokenOff v
  | _, v => v

/-- What a question makes of what is shown. -/
def shown : Question → Visibility → List Mark → Visibility
  | visibility action, v, marks => action.apply v marks
  | _, v, _ => v

end Question

namespace Session

theorem render_of_draw {s : Session} {v : Viewport} {marks : List Mark} {t : Timeline}
    (drawn : s.draw v marks = .ok t) :
    s.render v marks = ({ s with viewport := some v }, .ok t) := by
  rw [render, drawn]
  rfl

theorem render_eq_ok {s s' : Session} {v : Viewport} {marks : List Mark} {t : Timeline}
    (rendered : s.render v marks = (s', .ok t)) :
    s' = { s with viewport := some v } ∧ s.draw v marks = .ok t := by
  cases drawn : s.draw v marks with
  | error fault =>
    rw [render, drawn] at rendered
    cases rendered
  | ok t' =>
    rw [render_of_draw drawn] at rendered
    cases rendered
    exact ⟨rfl, rfl⟩

/-- The common form of all drawings. -/
def drawing (s : Session) (q : Question) (now : Instant) : Session × Except Halt Timeline :=
  match s.marks with
  | .error fault => (s, .error (.data fault))
  | .ok marks =>
    let synced := s.syncedViewport marks now
    match q.moved synced with
    | .error fault => ({ s with viewport := some (q.brokenOff synced) }, .error (.arithmetic fault))
    | .ok viewport =>
      { s with visibility := q.shown s.visibility marks }.render viewport marks

section Drawing

variable {s s' : Session} {q : Question} {now : Instant} {marks : List Mark} {v : Viewport}

theorem drawing_of_data {fault : DataFault} (failed : s.marks = .error fault) :
    s.drawing q now = (s, .error (.data fault)) := by
  rw [drawing, failed]

theorem drawing_of_moved (read : s.marks = .ok marks)
    (moved : q.moved (s.syncedViewport marks now) = .ok v) :
    s.drawing q now = { s with visibility := q.shown s.visibility marks }.render v marks := by
  simp only [drawing, read, moved]

theorem drawing_of_not_moved {fault : ArithmeticFault} (read : s.marks = .ok marks)
    (failed : q.moved (s.syncedViewport marks now) = .error fault) :
    s.drawing q now = ({ s with viewport := some (q.brokenOff (s.syncedViewport marks now)) },
      .error (.arithmetic fault)) := by
  simp only [drawing, read, failed]

theorem drawing_of_draw {t : Timeline} (read : s.marks = .ok marks)
    (moved : q.moved (s.syncedViewport marks now) = .ok v)
    (drawn : { s with visibility := q.shown s.visibility marks }.draw v marks = .ok t) :
    s.drawing q now =
      ({ s with visibility := q.shown s.visibility marks, viewport := some v }, .ok t) :=
  (drawing_of_moved read moved).trans (render_of_draw drawn)

theorem drawing_eq_ok {t : Timeline} (drawn : s.drawing q now = (s', .ok t)) :
    ∃ marks v, s.marks = .ok marks ∧ q.moved (s.syncedViewport marks now) = .ok v ∧
      s' = { s with visibility := q.shown s.visibility marks, viewport := some v } ∧
      s'.draw v marks = .ok t := by
  cases read : s.marks with
  | error fault =>
    rw [drawing_of_data read] at drawn
    cases drawn
  | ok marks =>
    cases moved : q.moved (s.syncedViewport marks now) with
    | error fault =>
      rw [drawing_of_not_moved read moved] at drawn
      cases drawn
    | ok v =>
      rw [drawing_of_moved read moved] at drawn
      obtain ⟨rfl, timeline⟩ := render_eq_ok drawn
      exact ⟨marks, v, rfl, moved, rfl, timeline⟩

/-- To draw fails for the data only if its marks do. -/
theorem drawing_eq_data {fault : DataFault} (failed : (s.drawing q now).2 = .error (.data fault)) :
    s.marks = .error fault := by
  cases read : s.marks with
  | error fault' =>
    rw [drawing_of_data read] at failed
    cases failed
    rfl
  | ok marks =>
    cases moved : q.moved (s.syncedViewport marks now) with
    | error fault' =>
      rw [drawing_of_not_moved read moved] at failed
      cases failed
    | ok v =>
      rw [drawing_of_moved read moved, render] at failed
      cases drawn : ({ s with visibility := q.shown s.visibility marks } : Session).draw v marks <;>
        rw [drawn] at failed <;> cases failed

end Drawing

theorem timeline_eq_drawing (s : Session) (now : Instant) :
    s.timeline now = s.drawing .timeline now := by
  simp only [timeline, drawing]
  cases s.marks <;> rfl

theorem applyViewport_eq_drawing (s : Session) (action : ViewportAction) (now : Instant) :
    s.applyViewport action now = s.drawing (.viewport action) now := by
  simp only [applyViewport, drawing, Question.moved, Question.brokenOff]
  cases s.marks with
  | error fault => rfl
  | ok marks => cases action.apply (s.syncedViewport marks now) <;> rfl

theorem applyVisibility_eq_drawing (s : Session) (filter : VisibilityAction) (now : Instant) :
    s.applyVisibility filter now = s.drawing (.visibility filter) now := by
  simp only [applyVisibility, drawing]
  cases s.marks <;> rfl

end Session

namespace Question

variable {q : Question} {s s' : Session} {now : Instant}

theorem answer_eq_drawing (s : Session) (now : Instant) (draws : q.draws = true) :
    q.answer s now = (s.drawing q now).map id (·.map Answer.timeline) := by
  cases q with
  | timeline => rw [answer, Session.timeline_eq_drawing]
  | viewport action => rw [answer, Session.applyViewport_eq_drawing]
  | visibility action => rw [answer, Session.applyVisibility_eq_drawing]
  | energy => cases draws
  | overview => cases draws

/-- Questions about energy and rooms leave the session as it is. -/
theorem answer_of_not_draws (s : Session) (now : Instant) (draws : q.draws = false) :
    (q.answer s now).1 = s ∧ ∀ t, (q.answer s now).2 ≠ .ok (.timeline t) := by
  cases q with
  | timeline => cases draws
  | viewport action => cases draws
  | visibility action => cases draws
  | energy =>
    refine ⟨rfl, fun t same => ?_⟩
    simp only [answer] at same
    cases found : s.energy <;> rw [found] at same <;> cases same
  | overview => exact ⟨rfl, fun t same => by cases same⟩

/-- To ask for a drawing fails for the data only if the marks do. -/
theorem marks_of_answer_eq_data {fault : DataFault} (draws : q.draws = true)
    (failed : (q.answer s now).2 = .error (.data fault)) : s.marks = .error fault := by
  rw [answer_eq_drawing s now draws, Prod.map_snd] at failed
  have same : (s.drawing q now).2 = .error (.data fault) := by
    cases drawn : (s.drawing q now).2 with
    | ok t => simp [drawn, Except.map] at failed
    | error halt => simpa [drawn, Except.map] using failed
  exact Session.drawing_eq_data same

theorem answer_eq_timeline_iff {t : Timeline} :
    q.answer s now = (s', .ok (.timeline t)) ↔
      q.draws = true ∧ s.drawing q now = (s', .ok t) := by
  constructor
  · intro answered
    cases draws : q.draws with
    | false => exact absurd (by rw [answered]) ((answer_of_not_draws s now draws).2 t)
    | true =>
      rw [answer_eq_drawing s now draws] at answered
      rcases drawn : s.drawing q now with ⟨s'', result⟩
      rw [drawn] at answered
      cases result with
      | error fault => cases answered
      | ok timeline => cases answered; exact ⟨rfl, rfl⟩
  · rintro ⟨draws, drawn⟩
    rw [answer_eq_drawing s now draws, drawn]
    rfl

/-- A timeline was drawn from a viewport and filters that are now the session's. -/
theorem answer_timeline {t : Timeline} (answered : q.answer s now = (s', .ok (.timeline t))) :
    ∃ marks v, s.marks = .ok marks ∧ q.moved (s.syncedViewport marks now) = .ok v ∧
      s' = { s with visibility := q.shown s.visibility marks, viewport := some v } ∧
      s'.draw v marks = .ok t :=
  Session.drawing_eq_ok (answer_eq_timeline_iff.mp answered).2

/-- A drawing that has a result is a timeline. -/
theorem exists_timeline (draws : q.draws = true)
    (answered : (q.answer s now).2.toOption.isSome = true) :
    ∃ s' t, q.answer s now = (s', .ok (.timeline t)) := by
  rw [answer_eq_drawing s now draws] at answered ⊢
  rcases drawn : s.drawing q now with ⟨s', result⟩
  rw [drawn] at answered
  cases result with
  | error fault => cases answered
  | ok t => exact ⟨s', t, rfl⟩

end Question

/-! ## What is drawn -/

/-- A timeline shows the current window of its viewport, and in it what passes the filters. -/
theorem Timeline.draw_eq_ok {zone : Zone} {v : Viewport} {shown : Visibility} {loading : Bool}
    {marks : List Mark} {points : List SolarPoint} {t : Timeline}
    (drawn : Timeline.draw zone v shown loading marks points = .ok t) :
    t.window = v.current ∧ t.fullExtent = v.full ∧ t.zoomed = v.isZoomed ∧
      t.dragging = v.isDragging ∧ t.marks = shown.marks v.current marks ∧
      t.solar = shown.solar v.current points := by
  unfold Timeline.draw at drawn
  cases ticks : Tick.ofWindow zone v.current with
  | error fault => simp [ticks, bind, Except.bind] at drawn
  | ok _ =>
    simp only [ticks, bind, Except.bind, pure, Except.pure, Except.ok.injEq] at drawn
    subst drawn
    exact ⟨rfl, rfl, rfl, rfl, rfl, rfl⟩

/-- The legend of a timeline is that of all marks, whatever the viewport and the filters. -/
theorem Timeline.legend_of_draw {zone : Zone} {v : Viewport} {shown : Visibility} {loading : Bool}
    {marks : List Mark} {points : List SolarPoint} {t : Timeline}
    (drawn : Timeline.draw zone v shown loading marks points = .ok t) :
    t.counts = Kind.all.map (fun kind => (kind, Series.count marks kind)) ∧
      t.devices = .ofMarks marks ∧ t.selected = shown.devices := by
  unfold Timeline.draw at drawn
  cases ticks : Tick.ofWindow zone v.current with
  | error fault => simp [ticks, bind, Except.bind] at drawn
  | ok _ =>
    simp only [ticks, bind, Except.bind, pure, Except.pure, Except.ok.injEq] at drawn
    subst drawn
    exact ⟨rfl, rfl, rfl⟩

/-- A timeline fails only for the ticks of its window, whatever else is to be drawn. -/
theorem Timeline.exists_draw {zone : Zone} {v v' : Viewport} {shown shown' : Visibility}
    {loading loading' : Bool} {marks marks' : List Mark} {points points' : List SolarPoint}
    {t : Timeline} (drawn : Timeline.draw zone v shown loading marks points = .ok t)
    (same : v'.current = v.current) :
    ∃ t', Timeline.draw zone v' shown' loading' marks' points' = .ok t' := by
  unfold Timeline.draw at drawn ⊢
  rw [same]
  cases ticks : Tick.ofWindow zone v.current with
  | error fault => simp [ticks, bind, Except.bind] at drawn
  | ok _ =>
    simp only [ticks, bind, Except.bind]
    exact ⟨_, rfl⟩

end HouseholdDashboard
