import HouseholdDashboard.Proofs.Chart.Viewport

/-!
# How drags and zooms end

A drag begins on a zoom and is ended by most of what gives up the zoom.  `Outcome.drag` says what a
change makes of a drag, and `Run.strays_iff` and `Run.held` what becomes of it along a run: it
outlives its zoom exactly if the zoom was given up by zooming out by a factor, with a wheel or
without.
-/

namespace HouseholdDashboard

namespace Viewport

/-- Whether there is a drag and no zoom. -/
def strays (v : Viewport) : Bool := v.isDragging && !v.isZoomed

namespace Passage

/-- Whether a change began a drag. -/
def Begins (p : Passage) (d : Drag) : Prop :=
  p.change = .startDrag d.x ∧ p.before.zoom = some d.window

/-- Whether a change gave up a zoom by a factor that reaches the full extent. -/
def Spreads (p : Passage) : Prop :=
  p.before.isZoomed = true ∧ p.before.reachesFull p.change = true

end Passage

/-! ## One change -/

namespace Outcome

variable {v w : Viewport} {c : Change}

theorem eq_of_reachesFull (outcome : Outcome v c w) (full : v.reachesFull c = true) :
    w = { v with zoom := none } := by
  cases outcome with
  | move _ short => rw [short] at full; cases full
  | spread => rfl
  | clear chosen => rcases chosen with rfl | ⟨window, rfl⟩ <;> cases full
  | stay idle => rcases idle with ⟨x, rfl, _⟩ | ⟨x, width, rfl⟩ <;> cases full
  | choose | begin | release | extend | outgrow => cases full

/-- A drag comes to be without a zoom only by zooming out. -/
theorem strays (outcome : Outcome v c w) (strays : w.strays = true) :
    v.strays = true ∨
      v.isDragging = true ∧ v.isZoomed = true ∧ v.reachesFull c = true := by
  cases outcome with
  | spread _ full =>
    have dragging : v.isDragging = true := by
      simpa [Viewport.strays, isDragging, isZoomed] using strays
    cases zoomed : v.isZoomed with
    | false => exact .inl (by simp [Viewport.strays, dragging, zoomed])
    | true => exact .inr ⟨dragging, rfl, full⟩
  | extend | stay => exact .inl strays
  | move | choose | clear | release | outgrow =>
    simp [Viewport.strays, isDragging, isZoomed] at strays
  | begin zoomed => simp [Viewport.strays, isDragging, isZoomed, zoomed] at strays

/-- A drag has just begun on the zoom, or it goes on; if it goes on, the zoom is given up only by
zooming out. -/
theorem drag {d : Drag} (outcome : Outcome v c w) (dragging : w.drag = some d) :
    (Passage.Begins ⟨v, c, w⟩ d ∧ w.isZoomed = true) ∨
      (v.drag = some d ∧ ¬ Passage.Begins ⟨v, c, w⟩ d ∧
        (v.isZoomed = true → w.isZoomed = true ∨ v.reachesFull c = true)) := by
  cases outcome with
  | move motion =>
    refine .inr ⟨dragging, fun begins => ?_, fun _ => .inl rfl⟩
    obtain ⟨rfl, _⟩ := begins
    cases motion
  | spread motion full =>
    refine .inr ⟨dragging, fun begins => ?_, fun _ => .inr full⟩
    obtain ⟨rfl, _⟩ := begins
    cases motion
  | begin zoomed =>
    cases dragging
    exact .inl ⟨⟨rfl, zoomed⟩, by simp [isZoomed, zoomed]⟩
  | extend =>
    refine .inr ⟨dragging, fun begins => ?_, fun zoomed => .inl zoomed⟩
    obtain ⟨set, _⟩ := begins
    cases set
  | stay idle =>
    refine .inr ⟨dragging, fun begins => ?_, fun zoomed => .inl zoomed⟩
    obtain ⟨rfl, zoomed⟩ := begins
    rcases idle with ⟨x, _, none⟩ | ⟨x, width, same⟩
    · rw [none] at zoomed
      cases zoomed
    · cases same
  | choose | clear | release | outgrow => cases dragging

end Outcome

/-! ## Runs -/

namespace Run

variable {v : Viewport} {history : List Passage}

theorem outcome (run : Run v history) {p : Passage} (made : p ∈ history) :
    Outcome p.before p.change p.after := by
  induction run with
  | start full => cases made
  | change run c became ih =>
    rcases List.mem_cons.mp made with rfl | earlier
    · exact change_outcome became
    · exact ih earlier

/-- The last viewport of a run is where its last change led to. -/
theorem after_head (run : Run v history) {p : Passage} {older : List Passage}
    (last : history = p :: older) : p.after = v := by
  cases run with
  | start full => cases last
  | change run c became => cases last; rfl

theorem strays_iff (run : Run v history) :
    v.strays = true ↔ ∃ newer p older, history = newer ++ p :: older ∧
      p.before.isDragging = true ∧ p.Spreads ∧ ∀ n ∈ newer, n.after.strays = true := by
  constructor
  · intro strays
    induction run with
    | start full => cases strays
    | @change v w history run c became ih =>
      rcases (change_outcome became).strays strays with already | ⟨dragging, spread⟩
      · obtain ⟨newer, p, older, split, dragging, spread, since⟩ := ih already
        refine ⟨⟨v, c, w⟩ :: newer, p, older, by rw [split]; rfl, dragging, spread, ?_⟩
        intro n made
        rcases List.mem_cons.mp made with rfl | earlier
        · exact strays
        · exact since n earlier
      · exact ⟨[], ⟨v, c, w⟩, history, rfl, dragging, spread, by simp⟩
  · rintro ⟨newer, p, older, split, dragging, spread, since⟩
    cases newer with
    | nil =>
      have led := (run.outcome (by simp [split])).eq_of_reachesFull spread.2
      rw [← run.after_head split, led]
      simpa [strays, isDragging, isZoomed] using dragging
    | cons n newer =>
      rw [← run.after_head split]
      exact since n List.mem_cons_self

/-- A drag has begun at some change.  Since then there has always been a zoom, or zooming out has
given it up. -/
theorem held {d : Drag} (run : Run v history) (dragging : v.drag = some d) :
    ∃ since e older, history = since ++ e :: older ∧ e.Begins d ∧
      (∀ p ∈ since, p.after.drag = some d ∧ ¬ p.Begins d) ∧
      ((v.isZoomed = true ∧ ∀ p ∈ since, p.after.isZoomed = true) ∨ ∃ p ∈ since, p.Spreads) := by
  induction run with
  | start full => cases dragging
  | @change v w history run c became ih =>
    rcases (change_outcome became).drag dragging with ⟨begins, zoomed⟩ | ⟨before, not_begins, kept⟩
    · exact ⟨[], ⟨v, c, w⟩, history, rfl, begins, by simp, .inl ⟨zoomed, by simp⟩⟩
    · obtain ⟨since, e, older, split, begins, during, outlived⟩ := ih before
      refine ⟨⟨v, c, w⟩ :: since, e, older, by rw [split]; rfl, begins, ?_, ?_⟩
      · intro p made
        rcases List.mem_cons.mp made with rfl | earlier
        · exact ⟨dragging, not_begins⟩
        · exact during p earlier
      · rcases outlived with ⟨zoomed, always⟩ | ⟨p, made, spread⟩
        · rcases kept zoomed with still | full
          · refine .inl ⟨still, fun p made => ?_⟩
            rcases List.mem_cons.mp made with rfl | earlier
            · exact still
            · exact always p earlier
          · exact .inr ⟨⟨v, c, w⟩, List.mem_cons_self, zoomed, full⟩
        · exact .inr ⟨p, List.mem_cons_of_mem _ made, spread⟩

end Run

end Viewport

end HouseholdDashboard
