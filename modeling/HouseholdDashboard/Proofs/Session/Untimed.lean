import HouseholdDashboard.Proofs.Session.Overshoot

/-!
# Times that cannot be read

Every drawing reads the times of all events before it does anything else, also of those that would
not be drawn.  So a drawing fails for the data exactly if one of these times cannot be read, the
first of them is at fault, and nothing has changed (`fails_for_first_untimed`).
-/

namespace HouseholdDashboard

theorem Event.isTimed_iff {e : Event} : e.isTimed = true ↔ Timestamp.instant? e.time ≠ none := by
  simp [isTimed, Timestamp.millis?, Option.ne_none_iff_isSome]

namespace Session

variable {s : Session} {q : Question} {now : Instant}

/-! ## The first bad time -/

theorem find?_untimed {before after : List Event} {e : Event}
    (listed : s.snapshot.events = before ++ e :: after)
    (timed : ∀ x ∈ before, Timestamp.instant? x.time ≠ none)
    (untimed : Timestamp.instant? e.time = none) :
    s.snapshot.events.find? (!·.isTimed) = some e := by
  rw [List.find?_eq_some_iff_append]
  refine ⟨?_, before, after, listed, fun x mem => ?_⟩
  · rw [Bool.not_eq_true', ← Bool.not_eq_true, Event.isTimed_iff]
    exact fun named => named untimed
  · rw [Bool.not_not]
    exact Event.isTimed_iff.mpr (timed x mem)

theorem exists_untimed {fault : DataFault} (failed : s.marks = .error fault) :
    ∃ e ∈ s.snapshot.events, Timestamp.instant? e.time = none := by
  by_contra all
  simp only [not_exists, not_and] at all
  obtain ⟨marks, read⟩ := exists_marks fun e mem => Event.isTimed_iff.mpr (all e mem)
  rw [failed] at read
  cases read

/-! ## Drawings that succeed -/

/-- While all times can be read, only an action on the viewport that overshoots has no timeline. -/
theorem answered_or_overshoots (readable : s.snapshot.Readable) (draws : q.draws = true)
    (now : Instant) :
    (∃ s' t, q.answer s now = (s', .ok (.timeline t))) ∨
      ∃ action marks, q = .viewport action ∧ s.marks = .ok marks ∧
        (s.syncedViewport marks now).Overshoots action := by
  obtain ⟨marks, read⟩ := exists_marks readable.events
  have inLine := s.syncedViewport_inLine marks now
  have reach := inLine.current_within.inReach (extent_inReach readable read now)
  cases q with
  | viewport action =>
    cases acted : (s.applyViewport action now).2 with
    | ok t =>
      refine .inl (Question.exists_timeline rfl ?_)
      rw [Question.answer, Prod.map_snd, acted]
      rfl
    | error halt =>
      have overshoots := ((applyViewport_eq_error_iff readable read).mp acted).2
      exact .inr ⟨action, marks, rfl, read, overshoots⟩
  | timeline =>
    obtain ⟨t, drawn⟩ := s.exists_draw reach marks
    exact .inl ⟨_, t, Question.answer_eq_timeline_iff.mpr
      ⟨rfl, drawing_of_draw read rfl drawn⟩⟩
  | visibility filter =>
    obtain ⟨t, drawn⟩ := { s with visibility := filter.apply s.visibility marks }.exists_draw reach
      marks
    exact .inl ⟨_, t, Question.answer_eq_timeline_iff.mpr
      ⟨rfl, drawing_of_draw read rfl drawn⟩⟩
  | energy => cases draws
  | overview => cases draws

/-- Without an action on the viewport nothing overshoots. -/
theorem exists_answer_of_readable (readable : s.snapshot.Readable) (draws : q.draws = true)
    (still : ∀ action, q ≠ .viewport action) (now : Instant) :
    ∃ s' t, q.answer s now = (s', .ok (.timeline t)) := by
  rcases answered_or_overshoots readable draws now with answered | ⟨action, _, same, _⟩
  · exact answered
  · exact absurd same (still action)

/-- A timeline or an action on the viewport or the filters fails for the data exactly if the time of
some event cannot be read, whatever the view, the filters, the viewport and the moment.  The first
such event in the order doors, appliances, WiFi is at fault, also if its state is unknown, and the
session is what it was.  If all times of the snapshot can be read, there is a timeline, unless an
action overshoots the extent. -/
theorem fails_for_first_untimed {q : Question} (draws : q.draws = true) (s : Session)
    (now : Instant) :
    ((∃ fault, (q.answer s now).2 = .error (.data fault)) ↔
      ∃ e ∈ s.snapshot.doors ++ s.snapshot.appliances ++ s.snapshot.wifi,
        Timestamp.instant? e.time = none) ∧
    (∀ before e after,
      s.snapshot.doors ++ s.snapshot.appliances ++ s.snapshot.wifi = before ++ e :: after →
      (∀ x ∈ before, Timestamp.instant? x.time ≠ none) → Timestamp.instant? e.time = none →
      q.answer s now = (s, .error (.data (.badTimestamp e.id e.time)))) ∧
    (s.snapshot.Readable →
      (∃ s' t, q.answer s now = (s', .ok (.timeline t))) ∨
        ∃ action marks, q = .viewport action ∧ s.marks = .ok marks ∧
          (s.syncedViewport marks now).Overshoots action) := by
  have fails : ∀ e, s.snapshot.events.find? (!·.isTimed) = some e →
      q.answer s now = (s, .error (.data (.badTimestamp e.id e.time))) := fun e first => by
    rw [Question.answer_eq_drawing s now draws, drawing_of_untimed first]
    rfl
  refine ⟨⟨?_, ?_⟩,
    fun before e after listed timed untimed => fails e (find?_untimed listed timed untimed),
    fun readable => answered_or_overshoots readable draws now⟩
  · rintro ⟨fault, failed⟩
    exact exists_untimed (Question.marks_of_answer_eq_data draws failed)
  · rintro ⟨e, mem, untimed⟩
    cases first : s.snapshot.events.find? (!·.isTimed) with
    | none =>
      have timed := List.find?_eq_none.mp first e mem
      simp only [Bool.not_eq_true', Bool.not_eq_false, Event.isTimed_iff] at timed
      exact absurd untimed timed
    | some e' => exact ⟨_, congrArg Prod.snd (fails e' first)⟩

/-- The zoomed session after a fetch that brought two bad times, the first on an oven whose state is
unknown. -/
def spoilt : Session :=
  [.begin noon, .finish ⟨2⟩ {
    doors := [⟨"e2", "gate", .known .doorClosed, "5000"⟩]
    appliances := [⟨"e3", "oven", .unknown .appliance, "soon"⟩]
    wifi := [⟨"e4", "phone", .known .wifiConnected, "later"⟩] }].foldl advance zoomedIn

theorem fails_for_first_untimed_spoilt :
    Reachable (fresh {} .utc {}) spoilt ∧ spoilt.viewport.isSome = true ∧
    (Question.viewport .zoomOut).answer spoilt noon =
      (spoilt, .error (.data (.badTimestamp "e3" "soon"))) ∧
    ∃ s' t, Question.timeline.answer zoomedIn noon = (s', .ok (.timeline t)) := by
  refine ⟨(Reachable.start.advances _).advances _, by decide +kernel, ?_, ?_⟩
  · refine (fails_for_first_untimed (q := .viewport .zoomOut) rfl spoilt noon).2.1
      [⟨"e2", "gate", .known .doorClosed, "5000"⟩] ⟨"e3", "oven", .unknown .appliance, "soon"⟩
      [⟨"e4", "phone", .known .wifiConnected, "later"⟩] ?_ ?_ ?_
    · decide +kernel
    · decide +kernel
    · decide +kernel
  · rcases (fails_for_first_untimed (q := .timeline) rfl zoomedIn noon).2.2 zoomedIn_readable with
      answered | ⟨action, marks, same, _⟩
    · exact answered
    · cases same

end Session

end HouseholdDashboard
