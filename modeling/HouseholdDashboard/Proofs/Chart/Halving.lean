import HouseholdDashboard.Proofs.Chart.Pan

/-!
# Zooming in

Zooming in halves the window around its midpoint.  Midpoint, length and start are each rounded on
their own; as long as quarters of a millisecond are exact in binary64, the three roundings agree: the
new window is half as long, rounded up to whole milliseconds, and lies inside of the old one
(`exists_zoomIn_halved`).  So zooming in again and again leads through a chain of nested windows,
each of them as long as the first one divided by a power of two and rounded up (`zoomIn_halves`).
-/

namespace HouseholdDashboard

open Binary64

/-! ## The start -/

/-- Where half of a window is to start, in quarters of a millisecond. -/
def Window.halfStart (w : Window) : Int :=
  4 * w.midpoint.count - w.width.count

/-- Whether the edges of a window are so near to 1970 that quarters between them are exact. -/
structure Window.QuartersExact (w : Window) : Prop where
  start : -2 ^ 50 ≤ w.start.count
  stop : w.stop.count ≤ 2 ^ 50

namespace Window.QuartersExact

variable {inner w : Window}

theorem of_within (fine : w.QuartersExact) (within : inner.Within w) : inner.QuartersExact :=
  ⟨Int.le_trans fine.start (Millis.le_iff.mp within.1),
    Int.le_trans (Millis.le_iff.mp within.2) fine.stop⟩

theorem toExact (fine : w.QuartersExact) : w.Exact :=
  ⟨by have := fine.start; omega, by have := fine.stop; omega⟩

/-- Half of the window starts a quarter of its length before the midpoint, without rounding. -/
theorem halved_start (fine : w.QuartersExact) :
    w.midpoint.toBinary64 - .finite (w.width.count / 2) / Viewport.number 2 =
      .finite (w.halfStart / 4) := by
  obtain ⟨first, ordered, last, width⟩ := fine.toExact.edges
  have low := fine.start
  have high := fine.stop
  have middle : w.midpoint.count = w.start.count + w.width.count / 2 := rfl
  have quarter : finite (w.width.count / 2) / Viewport.number 2 = finite (w.width.count / 4) := by
    have two : Viewport.number 2 = finite 2 := ofInt_eq (by norm_num) (by norm_num)
    rw [two, finite_div two_ne_zero, div_div, show (2 * 2 : Rat) = 4 by norm_num]
    exact ofRat_quarter (by omega) (by omega)
  have midpoint : w.midpoint.toBinary64 = finite w.midpoint.count :=
    ofInt_eq (by omega) (by omega)
  have difference : (w.midpoint.count : Rat) + -(w.width.count / 4) = w.halfStart / 4 := by
    rw [halfStart]
    push_cast
    ring
  rw [quarter, midpoint]
  show ofRat (w.midpoint.count + -(w.width.count / 4)) = _
  rw [difference]
  have start : w.halfStart = 4 * w.midpoint.count - w.width.count := rfl
  exact ofRat_quarter (by omega) (by omega)

/-- Rounded start and rounded length fit together: half of the window lies inside of it. -/
theorem halved_inside (fine : w.QuartersExact) :
    w.start.count ≤ roundAway (w.halfStart / 4) ∧
      roundAway (w.halfStart / 4) + (w.width.count + 1) / 2 ≤ w.stop.count := by
  obtain ⟨first, ordered, last, width⟩ := fine.toExact.edges
  have middle : w.midpoint.count = w.start.count + w.width.count / 2 := rfl
  -- The start is at most half a millisecond from its place, in whichever direction it is rounded.
  obtain ⟨lower, upper⟩ := roundAway_bounds (w.halfStart / 4)
  generalize roundAway _ = start at *
  have lower : w.halfStart - 2 ≤ 4 * start := by
    have scaled : (w.halfStart : Rat) - 2 ≤ 4 * start := by linarith
    exact_mod_cast scaled
  have upper : 4 * start ≤ w.halfStart + 2 := by
    have scaled : 4 * (start : Rat) ≤ w.halfStart + 2 := by linarith
    exact_mod_cast scaled
  rw [halfStart] at lower upper
  omega

end Window.QuartersExact

namespace Viewport

variable {v : Viewport}

/-! ## One step -/

/-- Zooming in halves the length, rounded up, and stays inside of what was shown. -/
theorem exists_zoomIn_halved (fine : v.full.QuartersExact) (within : v.current.Within v.full) :
    ∃ zoom : Window, v.zoomIn = .ok { v with zoom := some zoom } ∧ zoom.Within v.current ∧
      zoom.width.count = ⌈(v.current.width.count : Rat) / 2⌉ := by
  have quarters : v.current.QuartersExact := fine.of_within within
  have edges := quarters.toExact.edges
  have asked : v.asked (1 / 2) = v.current.width.count / 2 := by
    rw [asked_half, nearest_of_representable quarters.toExact.representable_width]
  obtain ⟨zoom, zoomed, _, width⟩ := exists_zoomIn within
  rw [asked, roundAway_half v.current.width_nonneg] at width
  refine ⟨zoom, zoomed, ?_, width⟩
  obtain ⟨zoom', placed, same⟩ := zoomedTo_eq_ok zoomed
  cases same
  rw [v.toBinary64_mul_eq_asked (by norm_num) (by norm_num), asked, quarters.halved_start] at placed
  have starts := Millis.le_iff.mp within.1
  have stops := Millis.le_iff.mp within.2
  obtain ⟨lower, upper⟩ := quarters.halved_inside
  obtain ⟨start, stop⟩ := place_eq_ok placed
  rw [← width_of_place placed, width, ceil_half] at start stop
  have rounded : (Millis.ofBinary64 (finite (v.current.halfStart / 4)).round).count =
      roundAway (v.current.halfStart / 4) := Millis.ofBinary64_intCast (by omega) (by omega)
  rw [rounded] at start
  rw [Window.Within, Millis.le_iff, Millis.le_iff]
  omega

/-! ## Any number of steps -/

/-- Zooming in any number of times shows a window of the first length, divided by as many twos and
rounded up. -/
theorem exists_zoomIns (fine : v.full.QuartersExact) (within : v.current.Within v.full) (n : Nat) :
    ∃ zoom : Option Window, v.changes (List.replicate n .zoomIn) = .ok { v with zoom } ∧
      (zoom.getD v.full).Within v.full ∧
      (zoom.getD v.full).width.count = ⌈(v.current.width.count : Rat) / 2 ^ n⌉ := by
  induction n with
  | zero =>
    refine ⟨v.zoom, changes_nil v, within, ?_⟩
    rw [pow_zero, div_one, Int.ceil_intCast, current]
  | succ n ih =>
    obtain ⟨zoom, became, inside, width⟩ := ih
    obtain ⟨next, zoomed, nested, half⟩ :=
      exists_zoomIn_halved (v := { v with zoom }) fine inside
    refine ⟨some next, ?_, nested.trans inside, ?_⟩
    · rw [List.replicate_succ', changes_concat became]
      exact zoomed
    · rw [Option.getD_some, half, current, width, ceil_ceil_div_two, div_div, ← pow_succ]

/-- Zooming in halves the length, rounded up, and stays inside of what was shown.  So any number of
times lead through a chain of nested windows; none of them is empty if the first one is not. -/
theorem zoomIn_halves (reachable : v.Reachable) (low : -2 ^ 50 ≤ v.full.start.count)
    (high : v.full.stop.count ≤ 2 ^ 50) :
    (∃ zoom : Window, v.zoomIn = .ok { v with zoom := some zoom } ∧ zoom.Within v.current ∧
      zoom.width.count = ⌈(v.current.width.count : Rat) / 2⌉) ∧
    ∃ shown : Nat → Window, shown 0 = v.current ∧
      (∀ n, v.changes (List.replicate (n + 1) .zoomIn) =
        .ok { v with zoom := some (shown (n + 1)) }) ∧
      (∀ m n, m ≤ n → (shown n).Within (shown m)) ∧
      ∀ n, (shown n).width.count = ⌈(v.current.width.count : Rat) / 2 ^ n⌉ ∧
        (1 ≤ v.current.width.count → 1 ≤ (shown n).width.count) := by
  have fine : v.full.QuartersExact := ⟨low, high⟩
  have within := reachable.current_within
  choose zoom became inside width using exists_zoomIns fine within
  have unchanged : { v with zoom := zoom 0 } = v := Except.ok.inj (became 0).symm
  have step : ∀ n, ∃ next : Window, zoom (n + 1) = some next ∧
      next.Within ((zoom n).getD v.full) := by
    intro n
    obtain ⟨next, zoomed, nested, _⟩ :=
      exists_zoomIn_halved (v := { v with zoom := zoom n }) fine (inside n)
    have after := became (n + 1)
    rw [List.replicate_succ', changes_concat (became n)] at after
    have same := Except.ok.inj (after.symm.trans zoomed)
    exact ⟨next, congrArg Viewport.zoom same, nested⟩
  refine ⟨exists_zoomIn_halved fine within, fun n => (zoom n).getD v.full,
    congrArg Viewport.current unchanged, fun n => ?_, fun m n le => ?_,
    fun n => ⟨width n, fun pos => ?_⟩⟩
  · obtain ⟨next, zoomed, _⟩ := step n
    simp only [became, zoomed, Option.getD_some]
  · induction n, le using Nat.le_induction with
    | base => exact .refl _
    | succ n _ nested =>
      obtain ⟨next, zoomed, inner⟩ := step n
      simp only [zoomed, Option.getD_some]
      exact inner.trans nested
  · have long : (0 : Rat) < v.current.width.count := by exact_mod_cast pos
    show 0 < ((zoom n).getD v.full).width.count
    rw [width, Int.ceil_pos]
    positivity

/-- Six of the last milliseconds of 1969. -/
def beforeEpoch : Window := .spanning (.saturate (-7)) (.saturate (-1))

theorem zoomIn_halves_beforeEpoch :
    (ofExtent beforeEpoch).Reachable ∧ ∃ shown : Nat → Window, shown 0 = beforeEpoch ∧
      (∀ n, (ofExtent beforeEpoch).changes (List.replicate (n + 1) .zoomIn) =
        .ok { ofExtent beforeEpoch with zoom := some (shown (n + 1)) }) ∧
      (∀ m n, m ≤ n → (shown n).Within (shown m)) ∧ (shown 1).width.count = 3 ∧
      (shown 3).width.count = 1 ∧ ∀ n, 1 ≤ (shown n).width.count := by
  have reachable := Reachable.start beforeEpoch
  have six : (ofExtent beforeEpoch).current.width.count = 6 := by decide +kernel
  obtain ⟨_, shown, first, became, nested, width⟩ :=
    zoomIn_halves reachable (by decide +kernel) (by decide +kernel)
  simp only [six] at width
  refine ⟨reachable, shown, first, became, nested, ?_, ?_, fun n => (width n).2 (by norm_num)⟩
  · rw [(width 1).1, pow_one, ceil_half]
    norm_num
  · rw [(width 3).1, Int.ceil_eq_iff]
    norm_num

end Viewport

end HouseholdDashboard
