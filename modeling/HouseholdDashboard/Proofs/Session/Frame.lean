import HouseholdDashboard.Service.Call

/-!
# What an operation leaves alone

Questions change at most what is shown and the viewport; a change of the view never touches the
gate, and keeps the hours unless it says that they are new.
-/

namespace HouseholdDashboard

namespace Session

/-! ## Questions -/

theorem timeline_frame (s : Session) (now : Instant) :
    ∃ viewport, (s.timeline now).1 = { s with viewport } := by
  unfold timeline
  split
  · exact ⟨s.viewport, rfl⟩
  · exact ⟨_, rfl⟩

theorem applyViewport_frame (s : Session) (action : ViewportAction) (now : Instant) :
    ∃ viewport, (s.applyViewport action now).1 = { s with viewport } := by
  unfold applyViewport
  split
  · exact ⟨s.viewport, rfl⟩
  · dsimp only
    split
    · exact ⟨_, rfl⟩
    · exact ⟨_, rfl⟩

theorem applyVisibility_frame (s : Session) (action : VisibilityAction) (now : Instant) :
    ∃ visibility viewport, (s.applyVisibility action now).1 = { s with visibility, viewport } := by
  unfold applyVisibility
  split
  · exact ⟨s.visibility, s.viewport, rfl⟩
  · exact ⟨_, _, rfl⟩

/-! ## Changing the hours -/

/-- Hours of the menu that are new also clear the filters and the zoom; no others change anything. -/
theorem setHours_eq (s : Session) (hours : Nat) :
    s.setHours hours =
      if hours ∈ View.menu ∧ hours ≠ s.view.hours then
        ({ s with view := { s.view with hours }, visibility := {}, viewport := none }, true)
      else (s, false) := by
  unfold setHours View.withHours?
  by_cases same : hours = s.view.hours
  · rw [if_pos same, if_neg (fun new => new.2 same)]
  · by_cases listed : hours ∈ View.menu
    · rw [if_neg same, if_pos (List.contains_iff_mem.mpr listed), if_pos ⟨listed, same⟩]
    · rw [if_neg same, if_neg (mt List.contains_iff_mem.mp listed), if_neg (fun new => listed new.1)]

theorem setHours_accepted_iff {s : Session} {hours : Nat} :
    (s.setHours hours).2 = true ↔ hours ∈ View.menu ∧ hours ≠ s.view.hours := by
  rw [setHours_eq]
  split
  · rename_i new
    exact iff_of_true rfl new
  · rename_i old
    exact iff_of_false Bool.false_ne_true old

theorem setHours_of_accepted {s : Session} {hours : Nat}
    (accepted : (s.setHours hours).2 = true) :
    (s.setHours hours).1 =
      { s with view := { s.view with hours }, visibility := {}, viewport := none } := by
  rw [setHours_eq, if_pos (setHours_accepted_iff.mp accepted)]

/-- Hours that are refused change nothing. -/
theorem setHours_of_refused {s : Session} {hours : Nat} (refused : (s.setHours hours).2 = false) :
    (s.setHours hours).1 = s := by
  rw [setHours_eq, if_neg (mt setHours_accepted_iff.mpr (Bool.eq_false_iff.mp refused))]

theorem setHours_gate (s : Session) (hours : Nat) : (s.setHours hours).1.gate = s.gate := by
  rw [setHours_eq]
  split <;> rfl

/-- Whether a fetch is settled before or after the hours change makes no difference. -/
theorem finishRefresh_setHours (s : Session) (hours : Nat) (ticket : Ticket) (snapshot : Snapshot) :
    (s.setHours hours).1.finishRefresh ticket snapshot =
      (((s.finishRefresh ticket snapshot).1.setHours hours).1,
        (s.finishRefresh ticket snapshot).2) := by
  simp only [setHours_eq, finishRefresh]
  split <;> rfl

theorem failRefresh_setHours (s : Session) (hours : Nat) (ticket : Ticket) :
    (s.setHours hours).1.failRefresh ticket =
      (((s.failRefresh ticket).1.setHours hours).1, (s.failRefresh ticket).2) := by
  simp only [setHours_eq, failRefresh]
  split <;> rfl

end Session

/-- A question changes at most what is shown and the viewport. -/
theorem Question.answer_frame (q : Question) (s : Session) (now : Instant) :
    ∃ visibility viewport, (q.answer s now).1 = { s with visibility, viewport } := by
  cases q with
  | timeline =>
    obtain ⟨viewport, moved⟩ := s.timeline_frame now
    exact ⟨s.visibility, viewport, moved⟩
  | viewport action =>
    obtain ⟨viewport, moved⟩ := s.applyViewport_frame action now
    exact ⟨s.visibility, viewport, moved⟩
  | visibility action => exact s.applyVisibility_frame action now
  | energy => exact ⟨s.visibility, s.viewport, rfl⟩
  | overview => exact ⟨s.visibility, s.viewport, rfl⟩

namespace Stage

theorem changeView_gate (s : Session) (c : ViewChange) : (changeView s c).1.gate = s.gate := by
  unfold changeView
  cases c.tab <;> cases c.hours <;> simp [Session.setHours_gate, Session.setTab]

/-- A change that does not say that the hours are new keeps them. -/
theorem changeView_hours {s : Session} {c : ViewChange} (kept : (changeView s c).2 = false) :
    (changeView s c).1.view.hours = s.view.hours := by
  unfold changeView at kept ⊢
  cases tab : c.tab <;> cases hours : c.hours <;> simp only [tab, hours] at kept ⊢
  · rw [Session.setHours_of_refused kept]
  · rfl
  · rw [Session.setHours_of_refused kept]
    rfl

end Stage

end HouseholdDashboard
