import HouseholdDashboard.Proofs.Chart.Extent
import HouseholdDashboard.Proofs.Chart.Viewport
import HouseholdDashboard.Proofs.Series.Order
import HouseholdDashboard.Proofs.Session.Reachable

/-!
# Without a zoom nothing is hidden

The extent is computed anew from the snapshot for every timeline and holds all of its times.  So
the window of a timeline that is not zoomed hides nothing, whatever extent the viewport had before:
only the filters decide what is shown (`unzoomed_hides_nothing`).
-/

namespace HouseholdDashboard

namespace Session

/-! ## The extent of a timeline -/

theorem moved_full {q : Question} {v w : Viewport} (moved : q.moved v = .ok w) :
    w.full = v.full := by
  cases q with
  | viewport action => exact ViewportAction.apply_full moved
  | timeline => cases moved; rfl
  | visibility action => cases moved; rfl
  | energy => cases moved; rfl
  | overview => cases moved; rfl

theorem extent_contains_mark {s : Session} {marks : List Mark} {now : Instant} {m : Mark}
    (drawn : m ∈ marks) : (s.extent marks now).contains m.time = true :=
  Extent.ofTimes_contains (List.mem_append_left _ (List.mem_map_of_mem drawn))

theorem extent_contains_point {s : Session} {marks : List Mark} {now : Instant} {p : SolarPoint}
    (drawn : p ∈ SolarPoint.ofHistory s.zone s.snapshot.solarHistory) :
    (s.extent marks now).contains p.time = true := by
  obtain ⟨sample, listed, rfl⟩ := List.mem_map.mp
    ((SolarPoint.ofHistory_perm s.zone s.snapshot.solarHistory).mem_iff.mp drawn)
  exact Extent.ofTimes_contains (List.mem_append_right _ (List.mem_map_of_mem listed))

end Session

/-! ## What the filters show -/

namespace Visibility

/-- A window that holds all marks hides none of them. -/
theorem marks_of_contains {v : Visibility} {w : Window} {marks : List Mark}
    (inside : ∀ m ∈ marks, w.contains m.time = true) :
    v.marks w marks = marks.filter fun m => v.kinds.shows m.kind && v.showsDevice m.device := by
  unfold Visibility.marks
  refine List.filter_congr fun m drawn => ?_
  simp [passes, inside m drawn]

/-- A window that holds all points hides none of them. -/
theorem solar_of_contains {v : Visibility} {w : Window} {points : List SolarPoint}
    (inside : ∀ p ∈ points, w.contains p.time = true) :
    v.solar w points = if v.lines.any then points else [] := by
  unfold solar
  rw [List.filter_eq_self.mpr inside]

/-- Before anything is hidden, every kind and every device is shown. -/
theorem default_shows (m : Mark) :
    (({} : Visibility).kinds.shows m.kind && ({} : Visibility).showsDevice m.device) = true := by
  cases kind : m.kind <;> rfl

end Visibility

namespace Session

/-- A timeline that is not zoomed shows exactly the marks of the snapshot that the filters let
pass, in their order, and all its solar points unless both lines are hidden.  Before anything is
hidden, that is one mark for each event of a known state and one point for each sample, in
ascending order of time. -/
theorem unzoomed_hides_nothing {q : Question} {s s' : Session} {now : Instant} {t : Timeline}
    (answered : q.answer s now = (s', .ok (.timeline t))) (unzoomed : t.zoomed = false) :
    ∃ marks, s.marks = .ok marks ∧
      t.marks = (marks.filter fun m =>
        s'.visibility.kinds.shows m.kind && s'.visibility.showsDevice m.device) ∧
      t.solar = (if s'.visibility.lines.any then
        SolarPoint.ofHistory s.zone s.snapshot.solarHistory else []) ∧
      (s'.visibility = {} →
        (∃ inOrder, List.Forall₂ (Mark.Depicts s.zone)
            ((s.snapshot.doors ++ s.snapshot.appliances ++ s.snapshot.wifi).filter Event.isKnown)
            inOrder ∧ t.marks.Perm inOrder) ∧
        t.marks.Pairwise (fun a b => a.time ≤ b.time) ∧
        t.solar.Perm (s.snapshot.solarHistory.map (SolarPoint.ofSample s.zone)) ∧
        t.solar.Pairwise (fun a b => a.time ≤ b.time)) := by
  obtain ⟨marks, v, read, moved, became, drawn⟩ := Question.answer_timeline answered
  obtain ⟨_, _, zoomed, _, shown, solar⟩ := Timeline.draw_eq_ok drawn
  have full : v.current = s.extent marks now := by
    rw [Viewport.current_of_not_zoomed (zoomed ▸ unzoomed), moved_full moved]
    exact Viewport.setFull_full _ _
  have points : SolarPoint.ofHistory s'.zone s'.snapshot.solarHistory =
      SolarPoint.ofHistory s.zone s.snapshot.solarHistory := by rw [became]; rfl
  rw [full, Visibility.marks_of_contains fun m listed => extent_contains_mark listed] at shown
  rw [full, points, Visibility.solar_of_contains fun p listed => extent_contains_point listed]
    at solar
  refine ⟨marks, read, shown, solar, fun usual => ?_⟩
  rw [usual, List.filter_eq_self.mpr fun m _ => Visibility.default_shows m] at shown
  rw [usual] at solar
  obtain ⟨inOrder, depicted, sorted⟩ := Series.ofEvents_eq_ok read
  rw [shown, solar, sorted]
  exact ⟨⟨inOrder, depicted, List.mergeSort_perm _ _⟩, Series.pairwise_mergeSort_time Mark.time _,
    SolarPoint.ofHistory_perm _ _, SolarPoint.pairwise_ofHistory _ _⟩

/-- A gate that opened a second after it had closed, and what the panels produced, behind a viewport
of the first second alone. -/
def gateOpened : Session :=
  { fresh {} .utc {} with
    gate := ⟨1, 1, some {
      doors := [⟨"opened", "gate", .known .doorOpen, "2000"⟩,
        ⟨"closed", "gate", .known .doorClosed, "1970-01-01T00:00:01Z"⟩,
        ⟨"ajar", "gate", .unknown .door, "0"⟩]
      solarHistory := [⟨⟨5000, by decide, by decide⟩, 20, none⟩] }⟩
    viewport := some (.ofExtent Viewport.firstSecond) }

theorem marks_gateOpened : gateOpened.marks = .ok [
    ⟨"closed", "gate", .doorClosed, ⟨1000, by decide, by decide⟩, "00:00:01"⟩,
    ⟨"opened", "gate", .doorOpen, ⟨2000, by decide, by decide⟩, "00:00:02"⟩] := by
  have opened : Timestamp.millis? "2000" = some ⟨2000, by decide, by decide⟩ := by decide +kernel
  have closed : Timestamp.millis? "1970-01-01T00:00:01Z" = some ⟨1000, by decide, by decide⟩ := by
    decide +kernel
  have ajar : Timestamp.millis? "0" = some .zero := by decide +kernel
  have one : Display.markTime .utc ⟨1000, by decide, by decide⟩ = "00:00:01" := by decide +kernel
  have two : Display.markTime .utc ⟨2000, by decide, by decide⟩ = "00:00:02" := by decide +kernel
  simp only [marks, snapshot, gateOpened, fresh, Option.getD_some, List.append_nil,
    Series.ofEvents_eq_map, Series.marks_cons, Mark.ofEvent, opened, closed, ajar]
  show Except.ok (List.mergeSort [_, _] _) = _
  simp [List.mergeSort, List.MergeSort.Internal.splitInTwo, Millis.le_iff, one, two]

theorem unzoomed_hides_nothing_gateOpened :
    ∃ s' t, Question.timeline.answer gateOpened noon = (s', .ok (.timeline t)) ∧
      t.zoomed = false ∧ s'.visibility = {} ∧
      t.marks.map (·.id) = ["closed", "opened"] ∧ t.marks.Pairwise (fun a b => a.time ≤ b.time) ∧
      t.solar.map (·.time.count) = [5000] := by
  obtain ⟨s', t, answered⟩ : ∃ s' t, Question.timeline.answer gateOpened noon =
      (s', .ok (.timeline t)) := by
    refine Question.exists_timeline rfl ?_
    rw [Question.answer_eq_drawing _ _ rfl, drawing, marks_gateOpened]
    decide +kernel
  obtain ⟨marks, v, read, moved, became, drawn⟩ := Question.answer_timeline answered
  rw [marks_gateOpened] at read
  cases read
  cases moved
  have unzoomed : t.zoomed = false := by
    rw [(Timeline.draw_eq_ok drawn).2.2.1]
    decide +kernel
  have usual : s'.visibility = {} := by rw [became]; rfl
  obtain ⟨marks, read, shown, solar, all⟩ := unzoomed_hides_nothing answered unzoomed
  rw [marks_gateOpened] at read
  cases read
  refine ⟨s', t, answered, unzoomed, usual, ?_, (all usual).2.1, ?_⟩
  · rw [shown, usual]
    rfl
  · rw [solar, usual]
    decide +kernel

end Session

end HouseholdDashboard
