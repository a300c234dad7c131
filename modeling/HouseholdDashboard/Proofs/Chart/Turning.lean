import HouseholdDashboard.Proofs.Chart.Widening

/-!
# Turning the wheel away

A turn of the wheel away asks for a fifth more, which is rounded to whole milliseconds.  From three
milliseconds on the window gets longer at every turn, until it is the full extent; of one or two, the
fifth is rounded away, and such a window keeps its length however long the wheel is turned
(`wheel_away_restores_iff`).
-/

namespace HouseholdDashboard

open Binary64

namespace Viewport

variable {v : Viewport}

/-! ## One turn -/

/-- Whether a turn of the wheel away makes the window longer or shows the full extent. -/
def Widens (v : Viewport) : Prop :=
  3 ≤ v.current.width.count ∨ v.full.width.count ≤ v.current.width.count

instance (v : Viewport) : Decidable v.Widens :=
  inferInstanceAs (Decidable (3 ≤ v.current.width.count ∨
    v.full.width.count ≤ v.current.width.count))

theorem add_half_le_asked_away (three : 3 ≤ v.current.width.count) :
    (v.current.width.count : Rat) + 1 / 2 ≤ v.asked (6 / 5) := by
  have pos : 0 < v.current.width.count := by omega
  obtain ⟨lower, _⟩ := asked_bounds pos (show (1 / 2 : Rat) ≤ 6 / 5 by norm_num)
  have three : (3 : Rat) ≤ v.current.width.count := by exact_mod_cast three
  linarith

/-- A fifth of one or two milliseconds is less than half a millisecond. -/
theorem asked_away_short (two : v.current.width.count ≤ 2) :
    (v.current.width.count : Rat) ≤ v.asked (6 / 5) ∧
      v.asked (6 / 5) < v.current.width.count + 1 / 2 := by
  rcases v.current.width_nonneg.eq_or_lt with none | pos
  · rw [asked_of_empty none.symm, ← none]
    norm_num
  · obtain ⟨lower, upper⟩ := asked_bounds pos (show (1 / 2 : Rat) ≤ 6 / 5 by norm_num)
    have one : (1 : Rat) ≤ v.current.width.count := by exact_mod_cast pos
    have two : (v.current.width.count : Rat) ≤ 2 := by exact_mod_cast two
    constructor <;> linarith

/-- What a turn of the wheel away comes to. -/
theorem wheel_away_step (widens : v.Widens) (cursor : Binary64) :
    v.wheel .away cursor = .ok { v with zoom := none } ∨
      ∃ zoom : Window, v.wheel .away cursor = .ok { v with zoom := some zoom } ∧
        zoom.Within v.full ∧ 3 ≤ v.current.width.count ∧
        v.current.width.count < zoom.width.count := by
  obtain ⟨u, became, scaled⟩ := v.exists_wheel .away cursor
  rw [Wheel.ratio_away] at scaled
  by_cases long : v.full.width.count ≤ v.current.width.count
  · exact .inl (by rw [became, scaled.eq_spread (by norm_num) long])
  · have three : 3 ≤ v.current.width.count := widens.resolve_right long
    cases scaled with
    | spread => exact .inl became
    | @fit zoom _ _ within width =>
      have longer := add_half_le_asked_away three
      have asked_pos : 0 ≤ v.asked (6 / 5) := (v.representable_asked (by norm_num)).nonneg
      have next : v.current.width.count + 1 ≤ zoom.width.count := by
        rw [width, le_roundAway_iff asked_pos]
        push_cast
        linarith
      exact .inr ⟨zoom, became, within, three, next⟩

theorem wheel_away_of_not_widens (short : ¬ v.Widens) (cursor : Binary64) :
    ∃ zoom : Window, v.wheel .away cursor = .ok { v with zoom := some zoom } ∧
      zoom.width = v.current.width := by
  simp only [Widens, not_or, not_le] at short
  obtain ⟨two, shorter⟩ := short
  obtain ⟨lower, upper⟩ := asked_away_short (v := v) (by omega)
  have length_pos : (0 : Rat) ≤ v.current.width.count := Int.cast_nonneg v.current.width_nonneg
  obtain ⟨u, became, scaled⟩ := v.exists_wheel .away cursor
  rw [Wheel.ratio_away] at scaled
  cases scaled with
  | spread reaches =>
    obtain ⟨length, same⟩ := Int.eq_ofNat_of_zero_le v.current.width_nonneg
    have next : Representable ((length + 1 : Nat) : Rat) := representable_natCast (by omega)
    have longer : ((length + 1 : Nat) : Rat) ≤ v.full.width.count := by
      rw [same] at shorter
      exact_mod_cast shorter
    have reached := (next.le_nearest (Nat.cast_nonneg _) longer).trans reaches
    rw [same] at upper
    push_cast at reached upper
    linarith
  | @fit zoom _ _ _ width =>
    refine ⟨zoom, became, Millis.ext ?_⟩
    have asked_pos := length_pos.trans lower
    have low := le_roundAway lower
    have high : ¬ v.current.width.count + 1 ≤ roundAway (v.asked (6 / 5)) := by
      rw [le_roundAway_iff asked_pos]
      push_cast
      linarith
    omega

theorem wheel_away_rest (none : v.zoom = none) (cursor : Binary64) :
    v.wheel .away cursor = .ok v := by
  obtain ⟨u, became, scaled⟩ := v.exists_wheel .away cursor
  rw [Wheel.ratio_away] at scaled
  rw [became, scaled.eq_of_unzoomed (by norm_num) none]

/-! ## Any number of turns -/

/-- A millisecond more at every turn shows the full extent in the end. -/
theorem wheels_away_spread (within : v.current.Within v.full) (widens : v.Widens)
    {cursors : List Binary64}
    (enough : v.full.width.count - v.current.width.count < cursors.length) :
    v.changes (cursors.map (.wheel .away)) = .ok { v with zoom := none } := by
  have length_pos := v.current.width_nonneg
  have full_pos := v.full.width_nonneg
  refine changes_spread
    (P := fun w => w.full = v.full ∧ w.current.Within v.full ∧ w.Widens)
    (fun w => w.current.width.count.toNat) (v.full.width.count.toNat + 1)
    (fun ⟨_, within, _⟩ => ?_) (fun {w} ⟨full, within, widens⟩ c made => ?_)
    (fun none c made => ?_) ⟨rfl, within, widens⟩ ?_
  · have shorter := within.width_le
    omega
  · obtain ⟨cursor, _, rfl⟩ := List.mem_map.mp made
    rcases wheel_away_step widens cursor with spread | ⟨zoom, zoomed, within', three, longer⟩
    · exact .inl spread
    · refine .inr ⟨zoom, zoomed, ⟨full, full ▸ within', .inl ?_⟩, ?_⟩
      · show 3 ≤ zoom.width.count
        omega
      · show w.current.width.count.toNat < zoom.width.count.toNat
        have := w.current.width_nonneg
        omega
  · obtain ⟨cursor, _, rfl⟩ := List.mem_map.mp made
    exact wheel_away_rest none cursor
  · show v.full.width.count.toNat + 1 ≤
      v.current.width.count.toNat + (cursors.map (Change.wheel .away)).length
    rw [List.length_map]
    omega

theorem isZoomed_of_not_widens (short : ¬ v.Widens) : v.isZoomed = true := by
  cases zoomed : v.isZoomed with
  | true => rfl
  | false => exact absurd (.inr (by rw [current_of_not_zoomed zoomed])) short

theorem wheels_away_of_not_widens (short : ¬ v.Widens) (cursors : List Binary64) :
    ∃ u, v.changes (cursors.map (.wheel .away)) = .ok u ∧ u.isZoomed = true ∧
      u.current.width = v.current.width := by
  have kept : ∃ u, v.changes (cursors.map (.wheel .away)) = .ok u ∧
      u.full = v.full ∧ u.current.width = v.current.width := by
    refine changes_keep (P := fun w => w.full = v.full ∧ w.current.width = v.current.width)
      (fun {w} ⟨full, width⟩ c made => ?_) ⟨rfl, rfl⟩
    obtain ⟨cursor, _, rfl⟩ := List.mem_map.mp made
    have short' : ¬ w.Widens := by
      rw [Widens, full, width]
      exact short
    obtain ⟨zoom, zoomed, width'⟩ := wheel_away_of_not_widens short' cursor
    exact ⟨_, zoomed, full, width'.trans width⟩
  obtain ⟨u, became, full, width⟩ := kept
  have short' : ¬ u.Widens := by
    rw [Widens, full, width]
    exact short
  exact ⟨u, became, isZoomed_of_not_widens short', width⟩

/-- A turn of the wheel away makes the window longer or shows the full extent exactly if the window
is three milliseconds long or as long as the full extent.  Then turning it gets back to the full
extent, wherever the cursor stands; and if not, the window keeps its length for ever. -/
theorem wheel_away_restores_iff (reachable : v.Reachable) :
    (∀ cursor, ∃ u, v.wheel .away cursor = .ok u ∧
      ((u.isZoomed = false ∨ v.current.width < u.current.width) ↔ v.Widens)) ∧
    (v.Widens → ∀ cursors : List Binary64,
      v.full.width.count - v.current.width.count < cursors.length →
        v.changes (cursors.map (.wheel .away)) = .ok { v with zoom := none }) ∧
    (¬ v.Widens → ∀ cursors : List Binary64, ∃ u,
      v.changes (cursors.map (.wheel .away)) = .ok u ∧ u.isZoomed = true ∧
        u.current.width = v.current.width) := by
  refine ⟨fun cursor => ?_, fun widens cursors enough =>
    wheels_away_spread reachable.current_within widens enough, wheels_away_of_not_widens⟩
  by_cases widens : v.Widens
  · rcases wheel_away_step widens cursor with spread | ⟨zoom, zoomed, _, _, longer⟩
    · exact ⟨_, spread, iff_of_true (.inl rfl) widens⟩
    · exact ⟨_, zoomed, iff_of_true (.inr longer) widens⟩
  · obtain ⟨zoom, zoomed, width⟩ := wheel_away_of_not_widens widens cursor
    refine ⟨_, zoomed, iff_of_false ?_ widens⟩
    rintro (unzoomed | longer)
    · cases unzoomed
    · have kept : ({ v with zoom := some zoom } : Viewport).current.width = v.current.width := width
      rw [kept] at longer
      exact absurd longer (Int.lt_irrefl _)

/-- The first two milliseconds of 1970. -/
def firstTwo : Window := ⟨.zero, ⟨2, by decide, by decide⟩, by decide⟩

/-- One millisecond of two. -/
def oneOfTwo : Viewport := (ofExtent firstTwo).advance .zoomIn

theorem oneOfTwo_reachable : oneOfTwo.Reachable :=
  (Reachable.start _).advance _

theorem oneOfTwo_not_widens : ¬ oneOfTwo.Widens := by decide +kernel

theorem wheel_away_restores_iff_oneOfTwo :
    (∀ cursors : List Binary64, ∃ u, oneOfTwo.changes (cursors.map (.wheel .away)) = .ok u ∧
      u.isZoomed = true ∧ u.current.width = oneOfTwo.current.width) ∧
    panned.changes ((List.replicate 501 .nan).map (.wheel .away)) =
      .ok { panned with zoom := none } := by
  have panned_reachable : panned.Reachable := (Reachable.start _).advances _
  obtain ⟨_, _, kept⟩ := wheel_away_restores_iff oneOfTwo_reachable
  obtain ⟨_, restores, _⟩ := wheel_away_restores_iff panned_reachable
  exact ⟨kept oneOfTwo_not_widens, restores (by decide +kernel) _ (by decide +kernel)⟩

/-- Zooming in once makes one millisecond of two, and turning the wheel away does not make two of
them again. -/
theorem oneOfTwo_stays_zoomed :
    oneOfTwo = (ofExtent firstTwo).advance .zoomIn ∧ oneOfTwo.isZoomed = true ∧
      ∀ (cursors : List Binary64) u, oneOfTwo.changes (cursors.map (.wheel .away)) = .ok u →
        u.isZoomed = true ∧ ¬ oneOfTwo.current.width < u.current.width := by
  refine ⟨rfl, by decide +kernel, fun cursors u became => ?_⟩
  obtain ⟨u', became', zoomed, width⟩ := wheels_away_of_not_widens oneOfTwo_not_widens cursors
  cases became.symm.trans became'
  refine ⟨zoomed, ?_⟩
  rw [width]
  exact Int.lt_irrefl _

end Viewport

end HouseholdDashboard
