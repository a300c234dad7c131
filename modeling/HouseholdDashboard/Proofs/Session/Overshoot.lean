import HouseholdDashboard.Proofs.Chart.Placement
import HouseholdDashboard.Proofs.Session.Frame
import HouseholdDashboard.Proofs.Session.Synced

/-!
# Actions that overshoot

While all times of a snapshot can be read, they are on the calendar, and the extent of the data is
in reach.  So the timeline can always be drawn, and an action on the viewport fails exactly if it
overshoots the extent, whatever has been done to the viewport before (`viewport_fails_iff`).  Only
an extent of more than `2 ^ 53` milliseconds can be overshot.
-/

namespace HouseholdDashboard

/-! ## Times that can be read -/

theorem Timestamp.bounds_of_millis? {text : String} {t : Millis} (named : millis? text = some t) :
    -2 ^ 53 ≤ t.count ∧ t.count ≤ 2 ^ 53 := by
  obtain ⟨instant, _, rfl⟩ := Option.map_eq_some_iff.mp named
  exact instant.toMillis_bounds

/-- Whether the times of all events and of all samples were read from texts. -/
structure Snapshot.Readable (s : Snapshot) : Prop where
  events : ∀ e ∈ s.events, e.isTimed = true
  samples : ∀ sample ∈ s.solarHistory, ∃ text, Timestamp.millis? text = some sample.time

/-- The time of a mark was read from a text. -/
theorem Series.exists_text {zone : Zone} {doors appliances wifi : List Event} {ms : List Mark}
    (read : ofEvents zone doors appliances wifi = .ok ms) {m : Mark} (drawn : m ∈ ms) :
    ∃ text, Timestamp.millis? text = some m.time := by
  obtain ⟨inOrder, depicted, rfl⟩ := ofEvents_eq_ok read
  have listed : m ∈ inOrder := (List.mergeSort_perm _ _).mem_iff.mp drawn
  generalize (doors ++ appliances ++ wifi).filter Event.isKnown = events at depicted
  clear read drawn
  induction depicted with
  | nil => cases listed
  | @cons e _ _ _ depicts _ ih =>
    rcases List.mem_cons.mp listed with rfl | later
    · exact ⟨e.time, depicts.time⟩
    · exact ih later

namespace Session

variable {s : Session} {marks : List Mark} {now : Instant}

theorem extent_inReach (readable : s.snapshot.Readable) (read : s.marks = .ok marks)
    (now : Instant) : (s.extent marks now).InReach := by
  refine Extent.ofTimes_inReach fun t listed => ?_
  simp only [List.mem_cons, List.mem_append, List.mem_map] at listed
  rcases listed with rfl | ⟨m, drawn, rfl⟩ | ⟨sample, listed, rfl⟩
  · exact now.toMillis_bounds
  · obtain ⟨text, named⟩ := Series.exists_text read drawn
    exact Timestamp.bounds_of_millis? named
  · obtain ⟨text, named⟩ := readable.samples sample listed
    exact Timestamp.bounds_of_millis? named

/-! ## Drawing -/

theorem exists_draw (s : Session) {v : Viewport} (reach : v.current.InReach) (marks : List Mark) :
    ∃ t, s.draw v marks = .ok t := by
  obtain ⟨ticks, found⟩ := Tick.exists_ofWindow s.zone reach
  simp only [draw, Timeline.draw, found, bind, Except.bind]
  exact ⟨_, rfl⟩

theorem applyViewport_eq_error_iff (readable : s.snapshot.Readable) (read : s.marks = .ok marks)
    {action : ViewportAction} {halt : Halt} :
    (s.applyViewport action now).2 = .error halt ↔
      halt = .arithmetic .noRoom ∧ (s.syncedViewport marks now).Overshoots action := by
  have inLine := s.syncedViewport_inLine marks now
  have reach : (s.syncedViewport marks now).full.InReach :=
    inLine.full_eq ▸ extent_inReach readable read now
  have within : (s.syncedViewport marks now).current.Within (s.syncedViewport marks now).full :=
    inLine.full_eq ▸ inLine.current_within
  rw [applyViewport_eq_drawing]
  cases applied : action.apply (s.syncedViewport marks now) with
  | error fault =>
    obtain ⟨rfl, overshoots⟩ := (action.apply_eq_error_iff reach within).mp applied
    rw [drawing_of_not_moved (q := .viewport action) read applied]
    simp only [Except.error.injEq, overshoots, and_true]
    exact eq_comm
  | ok v =>
    have short : ¬ (s.syncedViewport marks now).Overshoots action := by
      intro overshoots
      have failed := (action.apply_eq_error_iff reach within).mpr ⟨rfl, overshoots⟩
      rw [applied] at failed
      cases failed
    have inLine' : v.InLine (s.extent marks now) :=
      moved_inLine (q := .viewport action) inLine applied
    obtain ⟨t, drawn⟩ := s.exists_draw
      (inLine'.current_within.inReach (extent_inReach readable read now)) marks
    rw [drawing_of_draw (q := .viewport action) read applied drawn]
    simp only [short, and_false, reduceCtorEq]

/-! ## After any actions -/

/-- A session after an action on its viewport, also after one that broke off. -/
def act (s : Session) (action : ViewportAction × Instant) : Session :=
  (s.applyViewport action.1 action.2).1

theorem foldl_act_frame (s : Session) (actions : List (ViewportAction × Instant)) :
    ∃ viewport, actions.foldl act s = { s with viewport } := by
  induction actions generalizing s with
  | nil => exact ⟨s.viewport, rfl⟩
  | cons action actions ih =>
    obtain ⟨viewport, acted⟩ := s.applyViewport_frame action.1 action.2
    obtain ⟨later, became⟩ := ih (s.act action)
    exact ⟨later, by rw [List.foldl_cons, became, act, acted]⟩

/-- An action on the viewport fails exactly if it overshoots the extent of the data, as long as all
times of the snapshot could be read: whatever actions were taken before, and at whatever moments.
No extent of up to `2 ^ 53` milliseconds is overshot, and by choosing a window only one of more than
`2 ^ 54`, with the window a single millisecond shorter. -/
theorem viewport_fails_iff {s : Session} (readable : s.snapshot.Readable)
    (actions : List (ViewportAction × Instant)) (action : ViewportAction) (now : Instant) :
    let later := actions.foldl act s
    ∃ marks, later.marks = .ok marks ∧
      (∀ halt, (later.applyViewport action now).2 = .error halt ↔
        halt = .arithmetic .noRoom ∧ (later.syncedViewport marks now).Overshoots action) ∧
      ((later.extent marks now).width.count ≤ 2 ^ 53 →
        ∃ t, (later.applyViewport action now).2 = .ok t) ∧
      ∀ window, (later.syncedViewport marks now).Overshoots (.setWindow window) →
        window.width.count + 1 = (later.extent marks now).width.count ∧
        2 ^ 54 < (later.extent marks now).width.count := by
  obtain ⟨viewport, became⟩ := s.foldl_act_frame actions
  dsimp only
  generalize actions.foldl act s = later at became ⊢
  have readable : later.snapshot.Readable := by
    rw [became]
    exact readable
  obtain ⟨marks, read⟩ := exists_marks readable.events
  have full := (later.syncedViewport_inLine marks now).full_eq
  refine ⟨marks, read, fun halt => applyViewport_eq_error_iff readable read, fun short => ?_,
    fun window overshoots => ?_⟩
  · cases acted : (later.applyViewport action now).2 with
    | ok t => exact ⟨t, rfl⟩
    | error halt =>
      obtain ⟨_, overshoots⟩ := (applyViewport_eq_error_iff readable read).mp acted
      have long := overshoots.long
      rw [full] at long
      omega
  · rw [← full]
    exact overshoots.width_add_one (full ▸ extent_inReach readable read now)

/-- A sample of the first moment of the calendar, and one of the last. -/
def allTime : Session :=
  [.begin noon, .finish ⟨1⟩ {
    solarHistory := [
      ⟨⟨-8334601228800000, by decide, by decide⟩, 0, none⟩,
      ⟨⟨8210266876799999, by decide, by decide⟩, 0, none⟩] }].foldl advance (fresh {} .utc {})

/-- The extent of these samples but its last millisecond. -/
def almostAllTime : Window :=
  ⟨⟨-9161844634080000, by decide, by decide⟩, ⟨9037510282079998, by decide, by decide⟩, by decide⟩

theorem allTime_readable : allTime.snapshot.Readable where
  events := by decide +kernel
  samples := by
    have read : ∀ sample ∈ allTime.snapshot.solarHistory,
        ∃ text ∈ ["-8334601228800000", "8210266876799999"],
          Timestamp.millis? text = some sample.time := by decide +kernel
    intro sample listed
    obtain ⟨text, _, named⟩ := read sample listed
    exact ⟨text, named⟩

theorem zoomedIn_readable : zoomedIn.snapshot.Readable where
  events := by decide +kernel
  samples := by
    have none : zoomedIn.snapshot.solarHistory = [] := by decide +kernel
    rw [none]
    exact fun sample listed => by cases listed

theorem viewport_fails_iff_allTime :
    (∃ marks, (allTime.syncedViewport marks noon).Overshoots (.setWindow almostAllTime)) ∧
    ∃ t, (([(.dragStart (.finite 0), noon), (.zoomOut, noon)].foldl act zoomedIn).applyViewport
      (.dragMove (.finite 1) (.finite 2)) noon).2 = .ok t := by
  constructor
  · obtain ⟨marks, _, fails, _, _⟩ :=
      viewport_fails_iff allTime_readable [] (.setWindow almostAllTime) noon
    have failed : (allTime.applyViewport (.setWindow almostAllTime) noon).2 =
        .error (.arithmetic .noRoom) := by decide +kernel
    exact ⟨marks, ((fails _).mp failed).2⟩
  · obtain ⟨marks, read, _, answered, _⟩ := viewport_fails_iff zoomedIn_readable
      [(.dragStart (.finite 0), noon), (.zoomOut, noon)] (.dragMove (.finite 1) (.finite 2)) noon
    refine answered ?_
    have width : ([(.dragStart (.finite 0), noon), (.zoomOut, noon)].foldl act zoomedIn).marks.map
        (fun marks => (([(.dragStart (.finite 0), noon), (.zoomOut, noon)].foldl act
          zoomedIn).extent marks noon).width.count) = .ok 2 := by decide +kernel
    rw [read, Except.map, Except.ok.injEq] at width
    rw [width]
    decide

/-- To choose all of the extent but its last millisecond fails: there is no room for the window,
although it lies inside of the extent. -/
theorem almostAllTime_fails :
    Reachable (fresh {} .utc {}) allTime ∧ allTime.snapshot.Readable ∧ allTime.marks = .ok [] ∧
    almostAllTime.Within (allTime.extent [] noon) ∧
    (allTime.applyViewport (.setWindow almostAllTime) noon).2 =
      .error (.arithmetic .noRoom) := by
  have inside : almostAllTime.Within (allTime.extent [] noon) := by
    unfold Window.Within
    decide +kernel
  exact ⟨Reachable.start.advances _, allTime_readable, by decide +kernel, inside,
    by decide +kernel⟩

end Session

end HouseholdDashboard
