import HouseholdDashboard.Proofs.Chart.Growth
import HouseholdDashboard.Proofs.Session.Synced

/-!
# A zoom outlives a fetch

A fetch that leaves nothing out has an extent that holds the one before, and so the zoom, which lies
inside of that.  The timeline that follows shows the same window (`zoom_outlives_fetch`).
-/

namespace HouseholdDashboard

/-- The times of what a snapshot has to show: the events of a known state, and the samples. -/
def Snapshot.times (s : Snapshot) : List Millis :=
  (s.events.filter Event.isKnown).filterMap (fun e => Timestamp.millis? e.time) ++
    s.solarHistory.map (·.time)

/-- Marks stand at the times of the events that they show. -/
theorem Mark.times_of_depicts {zone : Zone} {events : List Event} {ms : List Mark}
    (depicted : List.Forall₂ (Mark.Depicts zone) events ms) :
    ms.map (·.time) = events.filterMap fun e => Timestamp.millis? e.time := by
  induction depicted with
  | nil => rfl
  | cons depicts _ ih => rw [List.map_cons, ih, List.filterMap_cons, depicts.time]

namespace Session

variable {s : Session} {marks : List Mark}

/-- The extent of a session is that of the times in its snapshot. -/
theorem times_perm (read : s.marks = .ok marks) :
    (marks.map (·.time) ++ s.snapshot.solarHistory.map (·.time)).Perm s.snapshot.times := by
  obtain ⟨inOrder, depicted, sorted⟩ := Series.ofEvents_eq_ok read
  have perm : marks.Perm inOrder := sorted ▸ List.mergeSort_perm _ _
  rw [Snapshot.times, Snapshot.events, ← Mark.times_of_depicts depicted]
  exact (perm.map _).append_right _

/-- A session whose times all occur in another one has an extent inside of the other's. -/
theorem extent_within {s' : Session} {marks' : List Mark} (read : s.marks = .ok marks)
    (read' : s'.marks = .ok marks')
    (data : (∃ e ∈ s.snapshot.events, e.isKnown = true) ∨ s.snapshot.solarHistory ≠ [])
    (more : s.snapshot.times ⊆ s'.snapshot.times) (now later : Instant) :
    (s.extent marks now).Within (s'.extent marks' later) :=
  Extent.ofTimes_mono (times_ne_nil read data)
    (fun _ listed => (times_perm read').symm.subset (more ((times_perm read).subset listed))) _ _

/-! ## Fetching -/

/-- To begin a fetch changes nothing but the gate. -/
theorem advance_begin_frame (s : Session) (now : Instant) :
    ∃ gate, s.advance (.begin now) = { s with gate } := by
  cases reached : s.view.since? now with
  | none => exact ⟨s.gate, by simp only [advance, operate, beginRefresh, reached, Except.map]⟩
  | some since =>
    exact ⟨s.gate.begin, by simp only [advance, operate, beginRefresh, reached, Except.map]⟩

theorem foldl_begin_frame (s : Session) (fetches : List Instant) :
    ∃ gate, (fetches.map Operation.begin).foldl advance s = { s with gate } := by
  induction fetches generalizing s with
  | nil => exact ⟨s.gate, rfl⟩
  | cons now fetches ih =>
    obtain ⟨gate, began⟩ := s.advance_begin_frame now
    obtain ⟨later, became⟩ := ih { s with gate }
    exact ⟨later, by rw [List.map_cons, List.foldl_cons, began, became]⟩

/-- A fetch that is begun after a drawing, and is still the latest, leaves its snapshot and changes
nothing of the viewport and the zone. -/
theorem refreshed_frame {s s' : Session} {fetches : List Instant} {ticket : Ticket}
    {snapshot : Snapshot}
    (taken : ((fetches.map Operation.begin).foldl advance s).finishRefresh ticket snapshot =
      (s', true)) :
    s'.snapshot = snapshot ∧ s'.viewport = s.viewport ∧ s'.zone = s.zone := by
  obtain ⟨gate, began⟩ := s.foldl_begin_frame fetches
  rw [began] at taken
  have latest : gate.isLatest ticket = true := congrArg Prod.snd taken
  have became : { s with gate := gate.apply ticket snapshot } = s' := congrArg Prod.fst taken
  rw [Gate.apply, if_pos latest] at became
  subst became
  exact ⟨rfl, rfl, rfl⟩

/-! ## The zoom -/

/-- An extent that holds the one before leaves a zoom as it is and draws it again. -/
theorem timeline_of_wider {v : Viewport} {full zoom : Window} {loading : Bool}
    {shown : Visibility} {before : List Mark} {points : List SolarPoint} {t : Timeline}
    {later : Instant} (read : s.marks = .ok marks) (seen : s.viewport = some v)
    (inLine : v.InLine full) (wider : full.Within (s.extent marks later))
    (zoomed : v.zoom = some zoom)
    (drawn : Timeline.draw s.zone v shown loading before points = .ok t) :
    ∃ s' t', s.timeline later = (s', .ok t') ∧ t'.window = v.current ∧ t'.zoomed = true ∧
      s'.viewport.map (·.zoom) = some (some zoom) := by
  have synced : s.syncedViewport marks later = { v with full := s.extent marks later } := by
    rw [syncedViewport, seen]
    exact Viewport.setFull_of_within fun z some_zoom => (inLine.zoom_within z some_zoom).trans wider
  -- the window that is shown is the zoom, and the extent has no part in it
  have same : { v with full := s.extent marks later }.current = v.current := by
    simp only [Viewport.current, zoomed, Option.getD_some]
  obtain ⟨t', drawn'⟩ : ∃ t', s.draw { v with full := s.extent marks later } marks = .ok t' :=
    Timeline.exists_draw drawn same
  obtain ⟨window, -, isZoomed, -⟩ := Timeline.draw_eq_ok drawn'
  refine ⟨{ s with viewport := some { v with full := s.extent marks later } }, t', ?_,
    window.trans same, ?_, congrArg some zoomed⟩
  · rw [timeline_eq_drawing]
    exact drawing_of_draw read (congrArg Except.ok synced) drawn'
  · rw [isZoomed, Viewport.isZoomed, zoomed]
    rfl

/-- The extent grows with the data, up to both ends of the range.  So a zoom that a timeline has
shown outlives a fetch whose snapshot can be read and leaves out none of the times there were: the
next timeline shows the same window. -/
theorem zoom_outlives_fetch :
    (∀ marks samples marks' samples' : List Millis, ∀ now later : Millis,
      marks ++ samples ≠ [] → marks ++ samples ⊆ marks' ++ samples' →
      (Extent.ofTimes marks samples now).Within (Extent.ofTimes marks' samples' later)) ∧
    ∀ (s s₁ : Session) (now : Instant) (t : Timeline), s.timeline now = (s₁, .ok t) →
      t.zoomed = true →
      (∃ e ∈ s.snapshot.events, e.isKnown = true) ∨ s.snapshot.solarHistory ≠ [] →
      ∀ (fetches : List Instant) (ticket : Ticket) (snapshot : Snapshot) (refreshed : Session),
        ((fetches.map Operation.begin).foldl advance s₁).finishRefresh ticket snapshot =
          (refreshed, true) →
        (∀ e ∈ snapshot.events, e.isTimed = true) → s.snapshot.times ⊆ snapshot.times →
        ∀ later, ∃ s₂ t', refreshed.timeline later = (s₂, .ok t') ∧ t'.window = t.window ∧
          t'.zoomed = true ∧ s₂.viewport.map (·.zoom) = s₁.viewport.map (·.zoom) := by
  refine ⟨fun _ _ _ _ now later data more => Extent.ofTimes_mono data more now later, ?_⟩
  intro s s₁ now t drawn zoomed data fetches ticket snapshot refreshed taken timed more later
  rw [timeline_eq_drawing] at drawn
  obtain ⟨marks, v, read, moved, rfl, drew⟩ := drawing_eq_ok drawn
  obtain ⟨fetched, seen, zone⟩ := refreshed_frame taken
  obtain ⟨window, -, isZoomed, -⟩ := Timeline.draw_eq_ok drew
  obtain ⟨zoom, some_zoom⟩ := Option.isSome_iff_exists.mp (isZoomed.symm.trans zoomed)
  rw [← fetched] at timed more
  obtain ⟨marks', read'⟩ := exists_marks timed
  have inLine : v.InLine (s.extent marks now) :=
    Except.ok.inj moved ▸ s.syncedViewport_inLine marks now
  have wider := extent_within read read' data more now later
  obtain ⟨s₂, t', drawn', window', zoomed', kept⟩ :=
    timeline_of_wider read' seen inLine wider some_zoom (zone ▸ drew)
  exact ⟨s₂, t', drawn', window'.trans window.symm, zoomed',
    kept.trans (congrArg some some_zoom.symm)⟩

/-- The gate of `zoomedIn`, which has closed since. -/
def closed : Snapshot where
  doors := [⟨"e1", "gate", .known .doorOpen, "0"⟩, ⟨"e2", "gate", .known .doorClosed, "5000"⟩]

theorem zoom_outlives_fetch_closed :
    ∃ s₁ t refreshed s₂ t', zoomedIn.timeline noon = (s₁, .ok t) ∧ t.zoomed = true ∧
      (s₁.advance (.begin noon)).finishRefresh ⟨2⟩ closed = (refreshed, true) ∧
      refreshed.timeline evening = (s₂, .ok t') ∧ t'.window = t.window ∧ t'.zoomed = true ∧
      (Extent.ofTimes [.zero] [] noon.toMillis).Within
        (Extent.ofTimes [.zero] [noon.toMillis] evening.toMillis) := by
  have shown : (zoomedIn.timeline noon).2.toOption.map (·.zoomed) = some true := by
    decide +kernel
  cases drawn : (zoomedIn.timeline noon).2 with
  | error halt =>
    rw [drawn] at shown
    cases shown
  | ok t =>
    rw [drawn] at shown
    have zoomed : t.zoomed = true := Option.some.inj shown
    have taken : (((zoomedIn.timeline noon).1.advance (.begin noon)).finishRefresh ⟨2⟩ closed).2 =
        true := by decide +kernel
    obtain ⟨s₂, t', drawn', window, zoomed', -⟩ :=
      zoom_outlives_fetch.2 zoomedIn (zoomedIn.timeline noon).1 noon t (Prod.ext rfl drawn) zoomed
        (.inl (by decide +kernel)) [noon] ⟨2⟩ closed _ (Prod.ext rfl taken) (by decide +kernel)
        (by decide +kernel) evening
    exact ⟨_, t, _, s₂, t', Prod.ext rfl drawn, zoomed, Prod.ext rfl taken, drawn', window,
      zoomed', zoom_outlives_fetch.1 [.zero] [] [.zero] [noon.toMillis] _ _ (by simp) (by simp)⟩

end Session

end HouseholdDashboard
