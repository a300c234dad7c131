import HouseholdDashboard.Proofs.Chart.Extent
import HouseholdDashboard.Proofs.Series.Order
import HouseholdDashboard.Proofs.Session.Reachable

/-!
# In line with the data

Every drawing first brings the viewport in line with the extent of the data, and of the viewport
from before it sees no more than that (`drawing_of_synced`).  To do so once more changes nothing, and
while there is any data the extent is the same at every moment.  So a session that has been drawn is
drawn again from where it stands (`drawing_again`).

Two things follow, and neither needs the session to have come about in any particular way.  The
zoom and the filters can be changed in either order (`zoom_and_filters_commute`), and to look at
the timeline leaves nothing behind that a later drawing could show (`timeline_leaves_no_trace`).
-/

namespace HouseholdDashboard

/-- All events of a snapshot, in the order in which their times are read. -/
def Snapshot.events (s : Snapshot) : List Event := s.doors ++ s.appliances ++ s.wifi

namespace Session

variable {s s' : Session} {q : Question} {marks : List Mark} {now : Instant}

/-! ## Marks -/

theorem marks_of_untimed {e : Event} (first : s.snapshot.events.find? (!·.isTimed) = some e) :
    s.marks = .error (.badTimestamp e.id e.time) :=
  Series.ofEvents_of_untimed first

theorem exists_marks (timed : ∀ e ∈ s.snapshot.events, e.isTimed = true) :
    ∃ marks, s.marks = .ok marks :=
  Series.exists_ofEvents s.zone timed

/-- An event of a known state or a sample is something to look at. -/
theorem times_ne_nil (read : s.marks = .ok marks)
    (data : (∃ e ∈ s.snapshot.events, e.isKnown = true) ∨ s.snapshot.solarHistory ≠ []) :
    marks.map (·.time) ++ s.snapshot.solarHistory.map (·.time) ≠ [] := by
  intro none
  obtain ⟨no_marks, no_samples⟩ := List.append_eq_nil_iff.mp none
  rcases data with ⟨e, mem, known⟩ | some_sample
  · obtain ⟨inOrder, depicted, sorted⟩ := Series.ofEvents_eq_ok read
    have perm : marks.Perm inOrder := sorted ▸ List.mergeSort_perm _ _
    rw [List.map_eq_nil_iff.mp no_marks] at perm
    rw [perm.nil_eq.symm] at depicted
    have listed : e ∈ s.snapshot.events.filter Event.isKnown := List.mem_filter.mpr ⟨mem, known⟩
    rw [Snapshot.events, List.forall₂_nil_right_iff.mp depicted] at listed
    cases listed
  · exact some_sample (List.map_eq_nil_iff.mp no_samples)

/-! ## Being in line -/

theorem syncedViewport_inLine (s : Session) (marks : List Mark) (now : Instant) :
    (s.syncedViewport marks now).InLine (s.extent marks now) :=
  Viewport.setFull_inLine _ _

/-- A viewport that is in line stays as it is. -/
theorem syncedViewport_of_inLine {v : Viewport} (seen : s.viewport = some v)
    (inLine : v.InLine (s.extent marks now)) : s.syncedViewport marks now = v := by
  rw [syncedViewport, seen]
  exact inLine.setFull_eq

theorem moved_inLine {v w : Viewport} {full : Window} (inLine : v.InLine full)
    (moved : q.moved v = .ok w) : w.InLine full := by
  cases q with
  | viewport action =>
    rw [Question.moved, action.apply_eq_change] at moved
    exact inLine.change moved fun other same => by cases action <;> cases same
  | timeline => cases moved; exact inLine
  | visibility action => cases moved; exact inLine
  | energy => cases moved; exact inLine
  | overview => cases moved; exact inLine

/-! ## One drawing after the other -/

/-- What a drawing comes to that does not end for want of an arithmetic result. -/
theorem drawing_of_calm (read : s.marks = .ok marks)
    (calm : ∀ fault, (s.drawing q now).2 ≠ .error (.arithmetic fault)) :
    ∃ v t, q.moved (s.syncedViewport marks now) = .ok v ∧
      { s with visibility := q.shown s.visibility marks }.draw v marks = .ok t ∧
      s.drawing q now =
        ({ s with visibility := q.shown s.visibility marks, viewport := some v }, .ok t) := by
  cases moved : q.moved (s.syncedViewport marks now) with
  | error fault => exact absurd (by rw [drawing_of_not_moved read moved]) (calm fault)
  | ok v =>
    cases drawn : ({ s with visibility := q.shown s.visibility marks } : Session).draw v marks with
    | error fault =>
      have failed : (s.drawing q now).2 = .error (.arithmetic fault) := by
        rw [drawing_of_moved read moved, render, drawn]
        rfl
      exact absurd failed (calm fault)
    | ok t => exact ⟨v, t, rfl, drawn, drawing_of_draw read moved drawn⟩

/-- Of the viewport from before, a drawing sees only what it is in line with the data. -/
theorem drawing_of_synced {viewport : Option Viewport} (read : s.marks = .ok marks)
    (same : { s with viewport }.syncedViewport marks now = s.syncedViewport marks now) :
    { s with viewport }.drawing q now = s.drawing q now := by
  cases moved : q.moved (s.syncedViewport marks now) with
  | error fault =>
    rw [drawing_of_not_moved read moved,
      drawing_of_not_moved (s := { s with viewport }) read (by rw [same, moved]), same]
  | ok v =>
    rw [drawing_of_moved read moved,
      drawing_of_moved (s := { s with viewport }) read (by rw [same, moved])]
    rfl

/-- The drawing of a session that has been drawn starts from the viewport it had then. -/
theorem drawing_again {visibility : Visibility} {v w : Viewport} (read : s.marks = .ok marks)
    (inLine : v.InLine (s.extent marks now)) (moved : q.moved v = .ok w) :
    { s with visibility, viewport := some v }.drawing q now =
      { s with visibility := q.shown visibility marks, viewport := some v }.render w marks := by
  have synced : { s with visibility, viewport := some v }.syncedViewport marks now = v :=
    syncedViewport_of_inLine rfl inLine
  rw [← synced] at moved
  exact drawing_of_moved (s := { s with visibility, viewport := some v }) read moved

theorem drawing_of_untimed {e : Event} (first : s.snapshot.events.find? (!·.isTimed) = some e) :
    s.drawing q now = (s, .error (.data (.badTimestamp e.id e.time))) :=
  drawing_of_data (marks_of_untimed first)

/-! ## The zoom and the filters -/

theorem drawing_comm {action : ViewportAction} {filter : VisibilityAction}
    (read : s.marks = .ok marks)
    (zooms : ∀ fault, (s.drawing (.viewport action) now).2 ≠ .error (.arithmetic fault))
    (filters : ∀ fault, (s.drawing (.visibility filter) now).2 ≠ .error (.arithmetic fault)) :
    ∃ s' t, (s.drawing (.viewport action) now).1.drawing (.visibility filter) now = (s', .ok t) ∧
      (s.drawing (.visibility filter) now).1.drawing (.viewport action) now = (s', .ok t) ∧
      s' = { s with
        viewport := (s.drawing (.viewport action) now).1.viewport
        visibility := (s.drawing (.visibility filter) now).1.visibility } := by
  obtain ⟨v, t, moved, drawn, zoomed⟩ := drawing_of_calm read zooms
  obtain ⟨w, u, same, _, filtered⟩ := drawing_of_calm read filters
  cases same
  have before := s.syncedViewport_inLine marks now
  have after : v.InLine (s.extent marks now) := moved_inLine before moved
  -- the ticks of the window have been drawn already, before the filters changed
  obtain ⟨t', drawn'⟩ : ∃ t', ({ s with
      visibility := filter.apply s.visibility marks } : Session).draw v marks = .ok t' :=
    Timeline.exists_draw drawn rfl
  refine ⟨{ s with visibility := filter.apply s.visibility marks, viewport := some v }, t',
    ?_, ?_, ?_⟩
  · rw [zoomed, drawing_again read after rfl]
    exact render_of_draw drawn'
  · rw [filtered, drawing_again read before moved]
    exact render_of_draw drawn'
  · rw [zoomed, filtered]
    rfl

/-- The zoom and the filters can be changed in either order: the session and the timeline are the
same afterwards, and each action has done what it does alone.  If the time of some event cannot be
read, every one of these actions fails for the first such event and changes nothing. -/
theorem zoom_and_filters_commute {s : Session} {action : ViewportAction}
    {filter : VisibilityAction} {now : Instant}
    (zooms : ∀ fault, (s.applyViewport action now).2 ≠ .error (.arithmetic fault))
    (filters : ∀ fault, (s.applyVisibility filter now).2 ≠ .error (.arithmetic fault)) :
    ((∀ e ∈ s.snapshot.events, e.isTimed = true) →
      ∃ s' t, (s.applyViewport action now).1.applyVisibility filter now = (s', .ok t) ∧
        (s.applyVisibility filter now).1.applyViewport action now = (s', .ok t) ∧
        s' = { s with
          viewport := (s.applyViewport action now).1.viewport
          visibility := (s.applyVisibility filter now).1.visibility }) ∧
    ∀ e, s.snapshot.events.find? (!·.isTimed) = some e →
      s.applyViewport action now = (s, .error (.data (.badTimestamp e.id e.time))) ∧
      s.applyVisibility filter now = (s, .error (.data (.badTimestamp e.id e.time))) ∧
      (s.applyViewport action now).1.applyVisibility filter now =
        (s, .error (.data (.badTimestamp e.id e.time))) ∧
      (s.applyVisibility filter now).1.applyViewport action now =
        (s, .error (.data (.badTimestamp e.id e.time))) := by
  simp only [applyViewport_eq_drawing, applyVisibility_eq_drawing] at zooms filters ⊢
  refine ⟨fun timed => ?_, fun e first => ?_⟩
  · obtain ⟨marks, read⟩ := exists_marks timed
    exact drawing_comm read zooms filters
  · simp only [drawing_of_untimed first, and_self]

/-- The gate of `zoomedIn`, closed five seconds later, behind the zoom from before. -/
def refetched : Session :=
  [.begin noon, .finish ⟨2⟩ { doors := [⟨"e2", "gate", .known .doorClosed, "5000"⟩] }].foldl advance
    zoomedIn

/-- The same with a time that cannot be read. -/
def misread : Session :=
  [.begin noon, .finish ⟨2⟩ { doors := [⟨"e2", "gate", .known .doorClosed, "soon"⟩] }].foldl advance
    zoomedIn

/-- What has a result does not end for want of an arithmetic one. -/
theorem calm_of_isSome {r : Except Halt α} (answered : r.toOption.isSome = true) :
    ∀ fault, r ≠ .error (.arithmetic fault) := by
  rintro fault rfl
  cases answered

theorem zoom_and_filters_commute_refetched :
    (∃ s' t,
      (refetched.applyViewport .zoomIn noon).1.applyVisibility (.toggleDevice "gate") noon =
        (s', .ok t) ∧
      (refetched.applyVisibility (.toggleDevice "gate") noon).1.applyViewport .zoomIn noon =
        (s', .ok t) ∧
      s'.visibility.devices.toList = ["gate"] ∧
      s'.viewport.map (·.current.start.count) = some 5000) ∧
    (misread.applyViewport .zoomIn noon).1.applyVisibility (.toggleDevice "gate") noon =
      (misread, .error (.data (.badTimestamp "e2" "soon"))) := by
  constructor
  · have zooms : ∀ fault, (refetched.applyViewport .zoomIn noon).2 ≠ .error (.arithmetic fault) :=
      calm_of_isSome (by decide +kernel)
    have filters : ∀ fault, (refetched.applyVisibility (.toggleDevice "gate") noon).2 ≠
        .error (.arithmetic fault) := calm_of_isSome (by decide +kernel)
    obtain ⟨s', t, one, other, became⟩ :=
      (zoom_and_filters_commute zooms filters).1 (by decide +kernel)
    refine ⟨s', t, one, other, ?_, ?_⟩
    · rw [became]
      decide +kernel
    · rw [became]
      decide +kernel
  · have untimed : misread.snapshot.events.find? (!·.isTimed) =
        some ⟨"e2", "gate", .known .doorClosed, "soon"⟩ := by decide +kernel
    have zooms : ∀ fault, (misread.applyViewport .zoomIn noon).2 ≠ .error (.arithmetic fault) := by
      rw [applyViewport_eq_drawing, drawing_of_untimed untimed]
      simp
    have filters : ∀ fault, (misread.applyVisibility (.toggleDevice "gate") noon).2 ≠
        .error (.arithmetic fault) := by
      rw [applyVisibility_eq_drawing, drawing_of_untimed untimed]
      simp
    exact ((zoom_and_filters_commute zooms filters).2 _ untimed).2.2.1

/-! ## Looking at the timeline -/

theorem drawing_after_timeline
    (data : (∃ e ∈ s.snapshot.events, e.isKnown = true) ∨ s.snapshot.solarHistory ≠ [])
    (earlier : Instant) : (s.timeline earlier).1.drawing q now = s.drawing q now := by
  cases read : s.marks with
  | error fault => rw [timeline, read]
  | ok marks =>
    have seen : (s.timeline earlier).1 =
        { s with viewport := some (s.syncedViewport marks earlier) } := by
      rw [timeline, read]
      rfl
    have extent : s.extent marks now = s.extent marks earlier :=
      Extent.ofTimes_now (times_ne_nil read data) _ _
    have same : s.syncedViewport marks earlier = s.syncedViewport marks now := by
      rw [syncedViewport, syncedViewport, extent]
    rw [seen]
    refine drawing_of_synced read ?_
    rw [same]
    exact syncedViewport_of_inLine rfl (s.syncedViewport_inLine marks now)

/-- While there is anything to look at, looking at the timeline first makes no difference to what
is drawn next, whichever drawing that is, at whatever moments, and also if it breaks off. -/
theorem timeline_leaves_no_trace {s : Session} {q : Question} {now : Instant}
    (data : (∃ e ∈ s.snapshot.events, e.isKnown = true) ∨ s.snapshot.solarHistory ≠ [])
    (draws : q.draws = true) (earlier : Instant) :
    q.answer (s.timeline earlier).1 now = q.answer s now := by
  rw [Question.answer_eq_drawing s now draws, Question.answer_eq_drawing _ now draws,
    drawing_after_timeline data earlier]

/-- Six hours after noon. -/
def evening : Instant := ⟨64800, 0, by decide, by decide, whole_second_lt⟩

/-- Looking at the timeline alone gives up the zoom, which the data has left behind; zooming in
does so as well. -/
theorem timeline_leaves_no_trace_refetched :
    (∃ e ∈ refetched.snapshot.events, e.isKnown = true) ∧
    (refetched.timeline noon).1.viewport ≠ refetched.viewport ∧
    (Question.viewport .zoomIn).answer (refetched.timeline noon).1 evening =
      (Question.viewport .zoomIn).answer refetched evening := by
  have data : ∃ e ∈ refetched.snapshot.events, e.isKnown = true := by decide +kernel
  exact ⟨data, by decide +kernel,
    timeline_leaves_no_trace (.inl data) rfl noon⟩

end Session

end HouseholdDashboard
