import HouseholdDashboard.Series
import HouseholdDashboard.Solar
import Mathlib.Data.List.Forall2

/-!
# What a series is made of

A series of marks shows each event of a known state once, in ascending order of time, and points
of the solar chart show each sample once, in that order as well.  There is a series exactly if the
times of all events can be read; otherwise the first one that cannot is at fault.
-/

namespace HouseholdDashboard

/-- Whether an event's state is known, so that it can be drawn. -/
def Event.isKnown (e : Event) : Bool := e.state.kind?.isSome

/-- Whether an event's time can be read. -/
def Event.isTimed (e : Event) : Bool := (Timestamp.millis? e.time).isSome

/-- A mark shows an event as the backend reported it. -/
structure Mark.Depicts (zone : Zone) (e : Event) (m : Mark) : Prop where
  id : m.id = e.id
  device : m.device = e.device
  state : e.state = .known m.kind
  time : Timestamp.millis? e.time = some m.time
  display : m.display = Display.markTime zone m.time

namespace Series

/-! ## Sorting by time -/

/-- Order by time is transitive, as sorting asks for it. -/
theorem trans_time (time : α → Millis) (a b c : α) (ab : decide (time a ≤ time b) = true)
    (bc : decide (time b ≤ time c) = true) : decide (time a ≤ time c) = true := by
  simp only [decide_eq_true_eq] at ab bc ⊢
  exact Int.le_trans ab bc

/-- Order by time is total, as sorting asks for it. -/
theorem total_time (time : α → Millis) (a b : α) :
    (decide (time a ≤ time b) || decide (time b ≤ time a)) = true := by
  simp only [Bool.or_eq_true, decide_eq_true_eq]
  exact Int.le_total _ _

/-- Sorting by time puts a list in ascending order of time. -/
theorem pairwise_mergeSort_time (time : α → Millis) (xs : List α) :
    (xs.mergeSort fun a b => time a ≤ time b).Pairwise fun a b => time a ≤ time b := by
  have sorted : (xs.mergeSort fun a b => time a ≤ time b).Pairwise
      fun a b => decide (time a ≤ time b) = true :=
    List.pairwise_mergeSort (trans_time time) (total_time time) xs
  simpa only [decide_eq_true_eq] using sorted

/-! ## Marks -/

theorem marks_cons (zone : Zone) (e : Event) (events : List Event) :
    marks zone (e :: events) =
      match Mark.ofEvent zone e, marks zone events with
      | .error fault, _ => .error fault
      | .ok _, .error fault => .error fault
      | .ok m, .ok rest => .ok (m.toList ++ rest) := by
  simp only [marks, List.mapM_cons]
  cases Mark.ofEvent zone e with
  | error fault => rfl
  | ok m =>
    cases events.mapM (Mark.ofEvent zone) with
    | error fault => rfl
    | ok rest => cases m <;> rfl

/-- There is a mark for each event of a known state, in the order of the events. -/
theorem forall₂_of_marks {zone : Zone} {events : List Event} {ms : List Mark}
    (read : marks zone events = .ok ms) :
    List.Forall₂ (Mark.Depicts zone) (events.filter Event.isKnown) ms := by
  induction events generalizing ms with
  | nil =>
    cases read
    exact .nil
  | cons e events ih =>
    rw [marks_cons] at read
    cases shown : Mark.ofEvent zone e with
    | error fault => simp [shown] at read
    | ok m =>
      cases later : marks zone events with
      | error fault => simp [shown, later] at read
      | ok rest =>
        simp only [shown, later, Except.ok.injEq] at read
        subst read
        unfold Mark.ofEvent at shown
        split at shown
        · cases shown
        · rename_i time named
          cases known : e.state with
          | unknown category =>
            cases shown
            simpa [Event.isKnown, known, State.kind?] using ih later
          | known kind =>
            cases shown
            simp only [List.filter_cons, Event.isKnown, known, State.kind?, Option.isSome_some,
              if_true, Option.map_some, Option.toList_some, List.singleton_append]
            exact .cons ⟨rfl, rfl, known, named, rfl⟩ (ih later)

theorem ofEvents_eq_map (zone : Zone) (doors appliances wifi : List Event) :
    ofEvents zone doors appliances wifi =
      (marks zone (doors ++ appliances ++ wifi)).map
        fun inOrder => inOrder.mergeSort fun a b => a.time ≤ b.time := by
  unfold ofEvents
  cases marks zone (doors ++ appliances ++ wifi) <;> rfl

/-- A series is what its events look like, sorted by time. -/
theorem ofEvents_eq_ok {zone : Zone} {doors appliances wifi : List Event} {ms : List Mark}
    (read : ofEvents zone doors appliances wifi = .ok ms) :
    ∃ inOrder, List.Forall₂ (Mark.Depicts zone)
        ((doors ++ appliances ++ wifi).filter Event.isKnown) inOrder ∧
      ms = inOrder.mergeSort fun a b => a.time ≤ b.time := by
  rw [ofEvents_eq_map] at read
  cases found : marks zone (doors ++ appliances ++ wifi) with
  | error fault =>
    rw [found] at read
    cases read
  | ok inOrder =>
    rw [found] at read
    cases read
    exact ⟨inOrder, forall₂_of_marks found, rfl⟩

/-! ## Times that cannot be read -/

/-- The first event whose time cannot be read is the fault of the whole series. -/
theorem ofEvents_of_untimed {zone : Zone} {doors appliances wifi : List Event} {e : Event}
    (first : (doors ++ appliances ++ wifi).find? (!·.isTimed) = some e) :
    ofEvents zone doors appliances wifi = .error (.badTimestamp e.id e.time) := by
  rw [ofEvents_eq_map]
  generalize doors ++ appliances ++ wifi = events at first
  suffices failed : marks zone events = .error (.badTimestamp e.id e.time) by rw [failed]; rfl
  induction events with
  | nil => cases first
  | cons x events ih =>
    rw [marks_cons]
    cases named : Timestamp.millis? x.time with
    | none =>
      have same : x = e := by simpa [Event.isTimed, named] using first
      rw [← same]
      simp only [Mark.ofEvent, named]
    | some time =>
      have later : events.find? (!·.isTimed) = some e := by
        simpa [Event.isTimed, named] using first
      simp only [Mark.ofEvent, named, ih later]

/-- Events whose times can all be read have a series. -/
theorem exists_ofEvents (zone : Zone) {doors appliances wifi : List Event}
    (timed : ∀ e ∈ doors ++ appliances ++ wifi, e.isTimed = true) :
    ∃ ms, ofEvents zone doors appliances wifi = .ok ms := by
  rw [ofEvents_eq_map]
  generalize doors ++ appliances ++ wifi = events at timed
  suffices read : ∃ ms, marks zone events = .ok ms by
    obtain ⟨ms, read⟩ := read
    exact ⟨_, by rw [read]; rfl⟩
  induction events with
  | nil => exact ⟨[], rfl⟩
  | cons x events ih =>
    obtain ⟨ms, read⟩ := ih fun e mem => timed e (List.mem_cons_of_mem x mem)
    obtain ⟨time, named⟩ := Option.isSome_iff_exists.mp (timed x List.mem_cons_self)
    rw [marks_cons]
    simp only [Mark.ofEvent, named, read]
    exact ⟨_, rfl⟩

end Series

namespace SolarPoint

/-- There is a point for each sample. -/
theorem ofHistory_perm (zone : Zone) (samples : List SolarSample) :
    (ofHistory zone samples).Perm (samples.map (ofSample zone)) :=
  List.mergeSort_perm _ _

theorem pairwise_ofHistory (zone : Zone) (samples : List SolarSample) :
    (ofHistory zone samples).Pairwise fun a b => a.time ≤ b.time :=
  Series.pairwise_mergeSort_time SolarPoint.time _

end SolarPoint

end HouseholdDashboard
