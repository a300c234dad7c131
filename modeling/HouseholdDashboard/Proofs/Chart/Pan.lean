import HouseholdDashboard.Proofs.Chart.Scaling

/-!
# Panning

A drag moves the window from where it was when the drag began.  As long as lengths and times are
exact in binary64, every move leads to a window of the same length (`Drag.exists_target`), and where it
leads does not depend on earlier moves; so a drag leaves nothing but the last of its moves
(`pan_from_origin`), and a pointer that is back where it started brings the window back.
-/

namespace HouseholdDashboard

open Binary64

/-! ## Exact windows -/

/-- Whether the edges of a window are exact as binary64 numbers, and so is its length. -/
structure Window.Exact (w : Window) : Prop where
  start : -2 ^ 52 ≤ w.start.count
  stop : w.stop.count ≤ 2 ^ 52

namespace Window.Exact

variable {inner w : Window}

theorem of_within (exact_w : w.Exact) (within : inner.Within w) : inner.Exact :=
  ⟨Int.le_trans exact_w.start (Millis.le_iff.mp within.1),
    Int.le_trans (Millis.le_iff.mp within.2) exact_w.stop⟩

theorem edges (exact_w : w.Exact) : -2 ^ 52 ≤ w.start.count ∧ w.start.count ≤ w.stop.count ∧
    w.stop.count ≤ 2 ^ 52 ∧ w.width.count = w.stop.count - w.start.count := by
  have reach : w.InReach := ⟨by have := exact_w.start; omega, by have := exact_w.stop; omega⟩
  obtain ⟨_, ordered, _, width⟩ := reach.edges
  exact ⟨exact_w.start, ordered, exact_w.stop, width⟩

theorem toBinary64_start (exact_w : w.Exact) : w.start.toBinary64 = .finite w.start.count := by
  obtain ⟨first, ordered, last, _⟩ := exact_w.edges
  exact ofInt_eq (by omega) (by omega)

theorem toBinary64_width (exact_w : w.Exact) : w.width.toBinary64 = .finite w.width.count := by
  obtain ⟨first, ordered, last, width⟩ := exact_w.edges
  exact ofInt_eq (by omega) (by omega)

theorem representable_width (exact_w : w.Exact) : Representable w.width.count := by
  obtain ⟨first, ordered, last, width⟩ := exact_w.edges
  rw [← nearest_intCast (n := w.width.count) (by omega) (by omega)]
  exact representable_nearest (Int.cast_nonneg w.width_nonneg)

end Window.Exact

/-! ## One move -/

/-- Where a move of the pointer takes the window from which a drag began. -/
def Drag.target (d : Drag) (full : Window) (x chartWidth : Binary64) :
    Except ArithmeticFault Window :=
  Viewport.place full
    (d.window.start.toBinary64 - (x - d.x) / chartWidth * d.window.width.toBinary64)
    d.window.width.toBinary64

namespace Drag

variable {d : Drag} {full w : Window} (exact_full : full.Exact) (within : d.window.Within full)
include exact_full within

theorem spanWidth_eq : Viewport.spanWidth full d.window.width.toBinary64 = d.window.width := by
  have exact_window := exact_full.of_within within
  apply Millis.ext
  rw [exact_window.toBinary64_width, Viewport.spanWidth_of_fits exact_window.representable_width
    (Int.cast_le.mpr within.width_le), roundAway_intCast]

/-- There is room for every move, and none changes the length of the window. -/
theorem exists_target (x chartWidth : Binary64) :
    ∃ w, d.target full x chartWidth = .ok w ∧ w.Within full ∧ w.width = d.window.width := by
  have length := spanWidth_eq exact_full within
  have shorter := within.width_le
  have edges := full.width_le_edges
  obtain ⟨w, placed, _⟩ := Viewport.place_of_room
    (d.window.start.toBinary64 - (x - d.x) / chartWidth * d.window.width.toBinary64)
    (show (Viewport.spanWidth full d.window.width.toBinary64).count ≤ _ by rw [length]; omega)
  exact ⟨w, placed, Viewport.within_of_place placed, (Viewport.width_of_place placed).trans length⟩

/-- A pointer that is back where the drag began brings the window back. -/
theorem target_of_return {x₀ : Rat} {chartWidth : Binary64} (began : d.x = .finite x₀)
    (moves : (finite 0).lt chartWidth = true) :
    d.target full (.finite x₀) chartWidth = .ok d.window := by
  obtain ⟨w, placed, _, width⟩ := exists_target exact_full within (.finite x₀) chartWidth
  have exact_window := exact_full.of_within within
  obtain ⟨first, ordered, last, width_eq⟩ := exact_window.edges
  have starts := Millis.le_iff.mp within.1
  have stops := Millis.le_iff.mp within.2
  have start_eq : (Millis.ofBinary64 (d.window.start.toBinary64 -
      (finite x₀ - d.x) / chartWidth * d.window.width.toBinary64).round).count =
      d.window.start.count := by
    rw [began, sub_self_div moves, exact_window.toBinary64_width, finite_zero_mul,
      exact_window.toBinary64_start, intCast_sub_zero (by omega) (by omega), Binary64.round, roundAway_intCast]
    exact Millis.ofBinary64_intCast (by omega) (by omega)
  obtain ⟨start, stop⟩ := Viewport.place_eq_ok placed
  rw [start_eq, spanWidth_eq exact_full within] at start
  rw [spanWidth_eq exact_full within] at stop
  have same : w = d.window := by
    refine Window.Within.antisymm ⟨?_, ?_⟩ ⟨?_, ?_⟩ <;> rw [Millis.le_iff] <;> omega
  rw [placed, same]

end Drag

/-! ## Any number of moves -/

namespace Viewport

/-- A place of the pointer, with the width of the chart there. -/
abbrev Pointer := Rat × Binary64

namespace Pointer

/-- A move of the pointer to a place. -/
def toChange (p : Pointer) : Change := .dragTo (.finite p.1) p.2

/-- Whether a move takes the window anywhere: a chart of no width has no places. -/
def moves (p : Pointer) : Bool := (finite 0).lt p.2

end Pointer

variable {v : Viewport} {d : Drag} {x chartWidth : Binary64}

theorem dragTo_of_target {zoom w : Window} (moves : (finite 0).lt chartWidth = true)
    (target : d.target v.full x chartWidth = .ok w) :
    ({ v with zoom := some zoom, drag := some d } : Viewport).dragTo x chartWidth =
      .ok { v with zoom := some w, drag := some d } := by
  have notIdle : ¬ ((some zoom).isNone = true ∨ (!(finite 0).lt chartWidth) = true) := by
    simp [moves]
  have placed : ({ v with zoom := some zoom, drag := some d } : Viewport).dragTo x chartWidth =
      (d.target v.full x chartWidth).map fun w => { v with zoom := some w, drag := some d } :=
    if_neg notIdle
  rw [placed, target]
  rfl

theorem dragTo_of_not_moves {zoom : Window} (idle : (finite 0).lt chartWidth = false) :
    ({ v with zoom := some zoom, drag := some d } : Viewport).dragTo x chartWidth =
      .ok { v with zoom := some zoom, drag := some d } := by
  have idle : (some zoom).isNone = true ∨ (!(finite 0).lt chartWidth) = true := by simp [idle]
  exact if_pos idle

/-- Moves leave the window to which the last of them leads that takes it anywhere. -/
theorem changes_drag (exact_full : v.full.Exact) (within : d.window.Within v.full)
    (ps : List Pointer) (zoom : Window) :
    ∃ final, ({ v with zoom := some zoom, drag := some d } : Viewport).changes
        (ps.map Pointer.toChange) = .ok { v with zoom := some final, drag := some d } ∧
      ((ps.filter Pointer.moves).getLast? = none → final = zoom) ∧
      ∀ p, (ps.filter Pointer.moves).getLast? = some p →
        d.target v.full (.finite p.1) p.2 = .ok final := by
  induction ps generalizing zoom with
  | nil => exact ⟨zoom, rfl, fun _ => rfl, fun p last => by cases last⟩
  | cons p ps ih =>
    rw [List.map_cons]
    cases moves : p.moves with
    | false =>
      obtain ⟨final, became, unmoved, moved⟩ := ih zoom
      have idle : ({ v with zoom := some zoom, drag := some d } : Viewport).change p.toChange =
        .ok { v with zoom := some zoom, drag := some d } := dragTo_of_not_moves moves
      rw [changes_cons idle, List.filter_cons_of_neg (by simp [moves])]
      exact ⟨final, became, unmoved, moved⟩
    | true =>
      obtain ⟨w, target, _⟩ := d.exists_target exact_full within (.finite p.1) p.2
      obtain ⟨final, became, unmoved, moved⟩ := ih w
      have led : ({ v with zoom := some zoom, drag := some d } : Viewport).change p.toChange =
          .ok { v with zoom := some w, drag := some d } := dragTo_of_target moves target
      rw [changes_cons led, List.filter_cons_of_pos moves, List.getLast?_cons]
      refine ⟨final, became, nofun, fun q last => ?_⟩
      cases later : (ps.filter Pointer.moves).getLast? with
      | none =>
        rw [later, Option.getD_none, Option.some.injEq] at last
        rw [← last, unmoved later]
        exact target
      | some r =>
        rw [later, Option.getD_some, Option.some.injEq] at last
        exact moved q (last ▸ later)

/-- A drag of a zoom leaves what the last move of the pointer leaves that takes it anywhere, as if
there were no other; the window keeps its length, and is back where it was once the pointer is. -/
theorem pan_from_origin {v : Viewport} {w : Window} (reachable : v.Reachable)
    (zoomed : v.zoom = some w) (low : -2 ^ 52 ≤ v.full.start.count)
    (high : v.full.stop.count ≤ 2 ^ 52) (x₀ : Rat) (ps : List Pointer) :
    ∃ final, v.changes (.startDrag (.finite x₀) :: ps.map Pointer.toChange) =
        .ok { v with zoom := some final, drag := some ⟨.finite x₀, w⟩ } ∧
      final.width = w.width ∧
      ((ps.filter Pointer.moves).getLast? = none → final = w) ∧
      ∀ p, (ps.filter Pointer.moves).getLast? = some p →
        v.changes [.startDrag (.finite x₀), p.toChange] =
            .ok { v with zoom := some final, drag := some ⟨.finite x₀, w⟩ } ∧
          (p.1 = x₀ → final = w) := by
  have exact_full : v.full.Exact := ⟨low, high⟩
  have within : w.Within v.full := reachable.zoom_within w zoomed
  have begun : v.change (.startDrag (.finite x₀)) =
      .ok { v with zoom := some w, drag := some ⟨.finite x₀, w⟩ } := by
    obtain ⟨full, zoom, drag⟩ := v
    cases zoomed
    rfl
  obtain ⟨final, became, unmoved, moved⟩ :=
    changes_drag (d := ⟨.finite x₀, w⟩) exact_full within ps w
  refine ⟨final, by rw [changes_cons begun, became], ?_, unmoved, fun p last => ?_⟩
  · cases last : (ps.filter Pointer.moves).getLast? with
    | none => rw [unmoved last]
    | some p =>
      obtain ⟨w', target, _, width⟩ := Drag.exists_target (d := ⟨.finite x₀, w⟩) exact_full within
        (.finite p.1) p.2
      cases target.symm.trans (moved p last)
      exact width
  · have target := moved p last
    have moves : p.moves = true := (List.mem_filter.mp (List.mem_of_getLast? last)).2
    have alone : ({ v with zoom := some w, drag := some ⟨.finite x₀, w⟩ } : Viewport).change
        p.toChange = .ok { v with zoom := some final, drag := some ⟨.finite x₀, w⟩ } :=
      dragTo_of_target moves target
    refine ⟨by rw [changes_cons begun, changes_cons alone, changes_nil], ?_⟩
    rintro rfl
    have back := Drag.target_of_return (d := ⟨.finite p.1, w⟩) exact_full within rfl moves
    cases back.symm.trans target
    rfl

/-- The middle half of a second. -/
def middle : Viewport := (ofExtent firstSecond).advance .zoomIn

/-- Far to the left, then nowhere, back to where the drag began, and nowhere again. -/
def thereAndBack : List Pointer :=
  [(-500, .finite 100), (60, .nan), (50, .finite 100), (70, .finite 0)]

theorem pan_from_origin_back :
    middle.Reachable ∧ middle.zoom = some middle.current ∧
      middle.changes (.startDrag (.finite 50) :: thereAndBack.map Pointer.toChange) =
        .ok { middle with drag := some ⟨.finite 50, middle.current⟩ } := by
  have reachable : middle.Reachable := (Reachable.start _).advance _
  have zoomed : middle.zoom = some middle.current := by decide +kernel
  have bounds : -2 ^ 52 ≤ middle.full.start.count ∧ middle.full.stop.count ≤ 2 ^ 52 := by
    decide +kernel
  obtain ⟨final, became, _, _, moved⟩ :=
    pan_from_origin reachable zoomed bounds.1 bounds.2 50 thereAndBack
  have last : (thereAndBack.filter Pointer.moves).getLast? = some (50, .finite 100) := by
    decide +kernel
  rw [(moved _ last).2 rfl, ← zoomed] at became
  exact ⟨reachable, zoomed, became⟩

end Viewport

end HouseholdDashboard
