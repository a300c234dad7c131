import HouseholdDashboard.Proofs.Chart.Scaling

/-!
# Room for a window

A window is placed by its length as a binary64 number, and beyond `2 ^ 53` such a number can be
longer than the window.  There is no room for a window that has become longer than the full extent,
and this is all that can go wrong far from the ends of the range of times
(`ViewportAction.apply_eq_error_iff`).

Zooming by a factor always leaves room: a number that is less than the nearest number of the full
length is at most the full length itself.
-/

namespace HouseholdDashboard

open Binary64

namespace Viewport

variable {v : Viewport} {full : Window} {start : Binary64} {x : Rat} {fault : ArithmeticFault}

/-! ## Lengths -/

/-- A length is rounded, and cut to the nearest number of the full length. -/
theorem spanWidth_finite (reach : full.InReach) (pos : 0 ≤ x) :
    ((spanWidth full (.finite x)).count : Rat) =
      min (roundAway x : Rat) (nearest full.width.count) := by
  obtain ⟨longest, rounded⟩ := exists_nearest_intCast full.width_nonneg
  have fits : nearest full.width.count ≤ 2 ^ 55 := reach.nearest_width_le
  rw [rounded] at fits ⊢
  have fits : (longest : Int) ≤ 2 ^ 55 := by exact_mod_cast fits
  have whole : 0 ≤ roundAway x := le_roundAway (by simpa using pos)
  rw [spanWidth_eq_saturate pos rounded, Millis.saturate_of_inRange (by omega) (by omega)]
  push_cast
  rfl

theorem spanWidth_le (reach : full.InReach) (pos : 0 ≤ x) :
    (spanWidth full (.finite x)).count ≤ 2 ^ 55 := by
  have cut : ((spanWidth full (.finite x)).count : Rat) ≤ 2 ^ 55 := by
    rw [spanWidth_finite reach pos]
    exact (min_le_right _ _).trans reach.nearest_width_le
  exact_mod_cast cut

/-- There is no room for a window exactly if it is longer than the extent. -/
theorem place_eq_error_iff (reach : full.InReach) (pos : 0 ≤ x) :
    place full start (.finite x) = .error fault ↔
      fault = .noRoom ∧ full.width.count < (spanWidth full (.finite x)).count := by
  obtain ⟨_, ordered, _, width_eq⟩ := reach.edges
  by_cases room : (spanWidth full (.finite x)).count ≤ full.stop.count - full.start.count
  · obtain ⟨w, placed, _⟩ := place_of_room start room
    have short : ¬ full.width.count < (spanWidth full (.finite x)).count := by omega
    simp only [placed, short, and_false, reduceCtorEq]
  · have fits := spanWidth_le reach pos
    rw [place]
    generalize spanWidth full (.finite x) = width at room fits
    obtain ⟨latest, subtracted, latest_eq⟩ :=
      Millis.exists_ofInt? (n := full.stop.count - width.count) (by omega) (by omega)
    have less : latest < full.start := by
      rw [Millis.lt_iff]
      omega
    have long : full.width.count < width.count := by omega
    simp only [Millis.sub?, subtracted, if_pos less, long, and_true, Except.error.injEq]
    exact eq_comm

/-- There is no room for a window exactly if its length is rounded beyond the extent. -/
theorem zoomedTo_eq_error_iff (reach : v.full.InReach) (pos : 0 ≤ x) :
    v.zoomedTo start (.finite x) = .error fault ↔
      fault = .noRoom ∧ v.full.width.count < roundAway x ∧
        (v.full.width.count : Rat) < nearest v.full.width.count := by
  have failed : v.zoomedTo start (.finite x) = .error fault ↔
      place v.full start (.finite x) = .error fault := by
    rw [zoomedTo]
    cases place v.full start (.finite x) <;> simp [Except.map]
  rw [failed, place_eq_error_iff reach pos, ← Int.cast_lt (R := Rat),
    spanWidth_finite reach pos, lt_min_iff, Int.cast_lt]

/-! ## Zooming by a factor -/

theorem zoomIn_ne_error (within : v.current.Within v.full) : v.zoomIn ≠ .error fault := by
  obtain ⟨zoom, became, _⟩ := exists_zoomIn within
  rw [became]
  exact fun failed => by cases failed

theorem zoomOut_ne_error (v : Viewport) : v.zoomOut ≠ .error fault := by
  obtain ⟨u, became, _⟩ := v.exists_zoomOut
  rw [became]
  exact fun failed => by cases failed

theorem wheel_ne_error (v : Viewport) (direction : Wheel) (cursor : Binary64) :
    v.wheel direction cursor ≠ .error fault := by
  obtain ⟨u, became, _⟩ := v.exists_wheel direction cursor
  rw [became]
  exact fun failed => by cases failed

/-! ## Windows that are given -/

/-- A given length is a whole number, also when it is rounded to a number of the format. -/
theorem lt_roundAway_nearest {window : Window} {n : Int} :
    n < roundAway (nearest window.width.count) ↔ (n : Rat) < nearest window.width.count := by
  obtain ⟨units, rounded⟩ := exists_nearest_intCast window.width_nonneg
  rw [rounded, roundAway_natCast]
  exact_mod_cast Iff.rfl

theorem zoomTo_eq_error_iff (reach : v.full.InReach) {window : Window} :
    v.zoomTo window = .error fault ↔ fault = .noRoom ∧ window.width < v.full.width ∧
      (v.full.width.count : Rat) < nearest window.width.count := by
  have length_pos : (0 : Rat) ≤ window.width.count := Int.cast_nonneg window.width_nonneg
  unfold zoomTo
  dsimp only
  split
  · rename_i wide
    rw [Millis.le_iff] at wide
    have notShort : ¬ window.width < v.full.width := Int.not_lt.mpr wide
    simp only [notShort, false_and, and_false, reduceCtorEq]
  · rename_i notWide
    have short : window.width < v.full.width := Int.not_le.mp notWide
    have mono : nearest window.width.count ≤ nearest v.full.width.count :=
      nearest_mono length_pos (Int.cast_le.mpr (Int.le_of_lt short))
    rw [Millis.toBinary64_eq window.width_nonneg,
      zoomedTo_eq_error_iff (by exact reach) (nearest_nonneg length_pos), lt_roundAway_nearest]
    simp only [short, true_and]
    exact and_congr_right fun _ => and_iff_left_of_imp fun long => long.trans_le mono

theorem dragTo_eq_error_iff (reach : v.full.InReach) {x chartWidth : Binary64} :
    v.dragTo x chartWidth = .error fault ↔ fault = .noRoom ∧ v.isZoomed = true ∧
      (Binary64.finite 0).lt chartWidth = true ∧ ∃ origin, v.drag = some origin ∧
        (v.full.width.count : Rat) < nearest origin.window.width.count ∧
        (v.full.width.count : Rat) < nearest v.full.width.count := by
  unfold dragTo
  cases dragging : v.drag with
  | none => simp
  | some origin =>
    have length_pos : (0 : Rat) ≤ origin.window.width.count :=
      Int.cast_nonneg origin.window.width_nonneg
    dsimp only
    split
    · rename_i idle
      simp only [Option.isNone_iff_eq_none, Bool.not_eq_true', isZoomed] at idle ⊢
      rcases idle with unzoomed | narrow
      · simp [unzoomed]
      · simp [narrow]
    · rename_i moves
      simp only [not_or, Option.isNone_iff_eq_none, ← Option.isSome_iff_ne_none, isZoomed,
        Bool.not_eq_true', Bool.not_eq_false] at moves ⊢
      rw [Millis.toBinary64_eq origin.window.width_nonneg,
        zoomedTo_eq_error_iff reach (nearest_nonneg length_pos), lt_roundAway_nearest]
      simp [moves]

/-! ## Actions -/

/-- Whether an action asks for a window whose length is rounded beyond the full extent: a chosen
window that is shorter, or the one from which a drag began. -/
def Overshoots (v : Viewport) : ViewportAction → Prop
  | .setWindow window =>
    window.width < v.full.width ∧ (v.full.width.count : Rat) < nearest window.width.count
  | .dragMove _ chartWidth =>
    v.isZoomed = true ∧ (Binary64.finite 0).lt chartWidth = true ∧
      ∃ origin, v.drag = some origin ∧
        (v.full.width.count : Rat) < nearest origin.window.width.count ∧
        (v.full.width.count : Rat) < nearest v.full.width.count
  | _ => False

/-- A chosen window overshoots the full extent only if it is a millisecond shorter, and the extent
so long that lengths are rounded to multiples of four. -/
theorem Overshoots.width_add_one {window : Window} (reach : v.full.InReach)
    (overshoots : v.Overshoots (.setWindow window)) :
    window.width.count + 1 = v.full.width.count ∧ 2 ^ 54 < v.full.width.count := by
  obtain ⟨short, long⟩ := overshoots
  rw [Millis.lt_iff] at short
  obtain ⟨first, _, last, width_eq⟩ := reach.edges
  have pos := window.width_nonneg
  have next : v.full.width.count < window.width.count + 2 := by
    have added := long.trans_le (nearest_intCast_le pos 2 (by omega))
    norm_num at added
    exact_mod_cast added
  refine ⟨by omega, ?_⟩
  by_contra notLong
  have added := long.trans_le (nearest_intCast_le pos 1 (by omega))
  norm_num at added
  have same : v.full.width.count < window.width.count + 1 := by exact_mod_cast added
  omega

/-- No length is rounded beyond an extent of up to `2 ^ 53` milliseconds. -/
theorem Overshoots.long {action : ViewportAction} (overshoots : v.Overshoots action) :
    2 ^ 53 < v.full.width.count := by
  by_contra notLong
  have exact_up_to : ∀ window : Window, window.width.count ≤ v.full.width.count →
      nearest window.width.count = window.width.count := by
    intro window shorter
    obtain ⟨length, same⟩ := Int.eq_ofNat_of_zero_le window.width_nonneg
    rw [same, Int.cast_natCast]
    exact nearest_of_representable (representable_natCast (by omega))
  cases action with
  | setWindow window =>
    obtain ⟨short, long⟩ := overshoots
    rw [Millis.lt_iff] at short
    rw [exact_up_to window short.le, Int.cast_lt] at long
    exact absurd long short.le.not_gt
  | dragMove x chartWidth =>
    obtain ⟨_, _, origin, _, _, long⟩ := overshoots
    rw [exact_up_to v.full (le_refl _)] at long
    exact absurd long (lt_irrefl _)
  | zoomIn | zoomOut | reset | wheel | dragStart | dragEnd => exact overshoots

end Viewport

/-- An action on a viewport fails exactly if it overshoots the full extent. -/
theorem ViewportAction.apply_eq_error_iff {v : Viewport} {fault : ArithmeticFault}
    (reach : v.full.InReach) (within : v.current.Within v.full) (action : ViewportAction) :
    action.apply v = .error fault ↔ fault = .noRoom ∧ v.Overshoots action := by
  cases action with
  | zoomIn => simp [apply, Viewport.Overshoots, Viewport.zoomIn_ne_error within]
  | zoomOut => simp [apply, Viewport.Overshoots, Viewport.zoomOut_ne_error]
  | reset => simp [apply, Viewport.Overshoots]
  | wheel delta cursor => simp [apply, Viewport.Overshoots, Viewport.wheel_ne_error]
  | dragStart x => simp [apply, Viewport.Overshoots]
  | dragMove x chartWidth => exact Viewport.dragTo_eq_error_iff reach
  | dragEnd => simp [apply, Viewport.Overshoots]
  | setWindow window => exact Viewport.zoomTo_eq_error_iff reach

end HouseholdDashboard
