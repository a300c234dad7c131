import HouseholdDashboard.Proofs.Chart.Drag
import HouseholdDashboard.Proofs.Session.Reachable

/-!
# Drags that outlive their zoom

A drag begins on a zoom, and most of what gives up the zoom ends the drag as well.  The exception
is zooming out by a factor, with a wheel or without: once that reaches the full extent the zoom is
given up and the drag goes on.  `drag_outlives_zoom_iff` shows that there is no other exception:
it says from the history of a viewport exactly when there is a drag and no zoom, and exactly when
a drag has seen its zoom given up.

Such a drag takes hold again with the next zoom, which it moves to where the old one was
(`drag_without_zoom`).
-/

namespace HouseholdDashboard

/-! ## Timelines -/

namespace Session

/-- There is a drag without a zoom exactly if zooming out has given up the zoom of a drag and
neither has changed since, and a drag has seen its zoom given up exactly if zooming out has given
up a zoom since it began.  Timelines report both as their viewport has them. -/
theorem drag_outlives_zoom_iff {v : Viewport} {history : List Viewport.Passage}
    (run : Viewport.Run v history) :
    ((v.isDragging = true ∧ v.isZoomed = false) ↔
      ∃ newer p older, history = newer ++ p :: older ∧ p.before.isDragging = true ∧ p.Spreads ∧
        ∀ n ∈ newer, n.after.isDragging = true ∧ n.after.isZoomed = false) ∧
    (∀ d, v.drag = some d →
      ∃ since e older, history = since ++ e :: older ∧ e.Begins d ∧
        (∀ p ∈ since, p.after.drag = some d ∧ ¬ p.Begins d) ∧
        ((∃ p ∈ since, p.after.isZoomed = false) ↔ ∃ p ∈ since, p.Spreads)) ∧
    ∀ (view : View) (zone : Zone) (tariff : Tariff) (s : Session),
      Reachable (fresh view zone tariff) s →
      ∀ (q : Question) (now : Instant) (s' : Session) (t : Timeline),
        q.answer s now = (s', .ok (.timeline t)) →
        ∃ shown passages, s'.viewport = some shown ∧ Viewport.Run shown passages ∧
          t.dragging = shown.isDragging ∧ t.zoomed = shown.isZoomed := by
  have strays_eq : ∀ w : Viewport, w.strays = true ↔ w.isDragging = true ∧ w.isZoomed = false := by
    intro w
    simp [Viewport.strays]
  refine ⟨?_, fun d dragging => ?_, fun view zone tariff s reachable q now s' t answered => ?_⟩
  · rw [← strays_eq, run.strays_iff]
    simp only [strays_eq]
  · obtain ⟨since, e, older, split, begins, during, outlived⟩ := run.held dragging
    refine ⟨since, e, older, split, begins, during, ?_, ?_⟩
    · rintro ⟨p, made, none⟩
      rcases outlived with ⟨_, always⟩ | spread
      · rw [always p made] at none
        cases none
      · exact spread
    · rintro ⟨p, made, spread⟩
      have outcome := run.outcome (p := p) (by simp [split, made])
      exact ⟨p, made, by rw [outcome.eq_of_reachesFull spread.2]; rfl⟩
  · obtain ⟨shown, seen, ⟨passages, run⟩, _, _, zoomed, dragging⟩ :=
      answer_viewport reachable.viewport_reachable answered
    exact ⟨shown, passages, seen, run, dragging, zoomed⟩

/-- A quarter of a second that is dragged while it is zoomed out to the full second. -/
def strayed : Viewport :=
  [.zoomIn, .zoomIn, .startDrag (.finite 0), .zoomOut, .zoomOut].foldl Viewport.advance
    (.ofExtent Viewport.firstSecond)

/-- The same on a session. -/
def strayedSession : Session :=
  [.ask (.viewport (.dragStart (.finite 0))) noon, .ask (.viewport .zoomOut) noon].foldl advance
    zoomedIn

theorem strayed_reachable : strayed.Reachable :=
  (Viewport.Reachable.start _).advances _

theorem strayedSession_reachable : Reachable (fresh {} .utc {}) strayedSession :=
  (Reachable.start.advances _ : Reachable _ zoomedIn).advances _

theorem exists_timeline_strayed :
    ∃ s' t, Question.timeline.answer strayedSession noon = (s', .ok (.timeline t)) :=
  Question.exists_timeline rfl (by decide +kernel)

theorem drag_outlives_zoom_strayed :
    ∃ history d, Viewport.Run strayed history ∧ strayed.drag = some d ∧
      (∃ newer p older, history = newer ++ p :: older ∧ p.before.isDragging = true ∧ p.Spreads ∧
        ∀ n ∈ newer, n.after.isDragging = true ∧ n.after.isZoomed = false) ∧
      (∃ since e older, history = since ++ e :: older ∧ e.Begins d ∧
        (∀ p ∈ since, p.after.drag = some d ∧ ¬ p.Begins d) ∧
        ((∃ p ∈ since, p.after.isZoomed = false) ↔ ∃ p ∈ since, p.Spreads)) ∧
      Reachable (fresh {} .utc {}) strayedSession ∧
      ∃ s' t v, Question.timeline.answer strayedSession noon = (s', .ok (.timeline t)) ∧
        s'.viewport = some v ∧ t.dragging = v.isDragging ∧ t.zoomed = v.isZoomed := by
  obtain ⟨history, run⟩ := strayed_reachable
  obtain ⟨d, dragging⟩ := Option.isSome_iff_exists.mp
    (show strayed.drag.isSome = true by decide +kernel)
  obtain ⟨s', t, answered⟩ := exists_timeline_strayed
  obtain ⟨alone, outlived, reports⟩ := drag_outlives_zoom_iff run
  obtain ⟨v, _, seen, _, same⟩ := reports _ _ _ _ strayedSession_reachable _ _ _ _ answered
  exact ⟨history, d, run, dragging, alone.mp (by decide +kernel), outlived d dragging,
    strayedSession_reachable, s', t, v, answered, seen, same⟩

/-- A viewport and a timeline have a drag and no zoom; and the drag moves the next zoom of the
viewport, half a second wide, to where the quarter was that it began on. -/
theorem drag_without_zoom :
    (strayed.Reachable ∧ strayed.isDragging = true ∧ strayed.isZoomed = false ∧
      (strayed.advance .zoomIn).current.width.count = 500 ∧
      ((strayed.advance .zoomIn).advance (.dragTo (.finite 0) (.finite 100))).current.width.count =
        250) ∧
    ∃ s s' t, Reachable (fresh {} .utc {}) s ∧
      Question.timeline.answer s noon = (s', .ok (.timeline t)) ∧
      t.dragging = true ∧ t.zoomed = false := by
  refine ⟨⟨strayed_reachable, by decide +kernel⟩, strayedSession, ?_⟩
  obtain ⟨s', t, answered⟩ := exists_timeline_strayed
  obtain ⟨v, seen, _, _, _, zoomed, dragging⟩ :=
    answer_viewport strayedSession_reachable.viewport_reachable answered
  have after : (Question.timeline.answer strayedSession noon).1.viewport.map
      (fun v => (v.isDragging, v.isZoomed)) = some (true, false) := by decide +kernel
  rw [answered] at after
  simp only [seen, Option.map_some, Option.some.injEq, Prod.mk.injEq] at after
  exact ⟨s', t, strayedSession_reachable, answered, dragging.trans after.1, zoomed.trans after.2⟩

end Session

end HouseholdDashboard
