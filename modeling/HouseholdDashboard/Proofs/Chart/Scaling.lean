import HouseholdDashboard.Proofs.Chart.Reach
import HouseholdDashboard.Proofs.Number.Precision

/-!
# Lengths by a factor

Zooming asks for the length of the window times a factor, in binary64 (`asked`).  If that number
reaches the one nearest to the full length, the full extent is shown; if not, there is room for a
window of that length, rounded to whole milliseconds (`Scaled`).  This holds of every viewport,
also at the ends of the range of times.

The comparison is made before the rounding.  So a length that falls short of the full extent by at
most half a millisecond is not taken for the full extent and then rounded up to it: what is shown
is a zoom that leaves nothing out (`snaps_iff`).
-/

namespace HouseholdDashboard

open Binary64

namespace Wheel

/-- The factor in fifths. -/
def fifths : Wheel → Int
  | closer => 4
  | away => 6

/-- The factor itself, before it is rounded. -/
def ratio (direction : Wheel) : Rat := direction.fifths / 5

theorem factor_eq (direction : Wheel) : direction.factor = .ofRat direction.ratio := by
  cases direction <;> norm_num [factor, ratio, fifths]

theorem ratio_away : away.ratio = 6 / 5 := by
  norm_num [ratio, fifths]

theorem half_le_ratio (direction : Wheel) : 1 / 2 ≤ direction.ratio := by
  cases direction <;> norm_num [ratio, fifths]

theorem ratio_le_two (direction : Wheel) : direction.ratio ≤ 2 := by
  cases direction <;> norm_num [ratio, fifths]

end Wheel

theorem Window.width_le_edges (w : Window) : w.width.count ≤ w.stop.count - w.start.count := by
  have ordered := Millis.le_iff.mp w.start_le_stop
  simp only [width, Millis.subSaturating, Millis.saturate]
  omega

namespace Viewport

variable {v : Viewport} {full : Window} {x : Rat}

/-! ## Lengths that fit -/

/-- A length is rounded to whole milliseconds, and cut to what is nearest to the full length. -/
theorem spanWidth_eq_saturate {longest : Nat} (pos : 0 ≤ x)
    (rounded : nearest full.width.count = longest) :
    spanWidth full (.finite x) = .saturate (min (roundAway x) longest) := by
  have whole : 0 ≤ roundAway x := le_roundAway (by simpa using pos)
  have notBelow : ¬ (roundAway x : Rat) < 0 := not_lt.mpr (Int.cast_nonneg whole)
  rw [spanWidth, Millis.toBinary64_eq full.width_nonneg, rounded]
  simp only [Binary64.round, clamp, lt, decide_eq_true_eq, if_neg notBelow]
  split
  · rename_i long
    have more : (longest : Int) ≤ roundAway x := by exact_mod_cast long.le
    rw [min_eq_right more, ← Millis.ofBinary64_eq_saturate, Int.cast_natCast]
  · rename_i short
    have less : roundAway x ≤ longest := by exact_mod_cast not_lt.mp short
    rw [min_eq_left less, Millis.ofBinary64_eq_saturate]

/-- A number of the format that is no longer than the extent is only rounded. -/
theorem spanWidth_of_fits (whole : Representable x) (short : x ≤ full.width.count) :
    (spanWidth full (.finite x)).count = roundAway x := by
  obtain ⟨longest, rounded⟩ := exists_nearest_intCast full.width_nonneg
  have pos := whole.nonneg
  have fits : x ≤ ((longest : Int) : Rat) := by
    rw [Int.cast_natCast, ← rounded]
    exact whole.le_nearest pos short
  have lower : 0 ≤ roundAway x := le_roundAway (by simpa using pos)
  have upper := full.width.upper
  have bound := roundAway_le short
  rw [spanWidth_eq_saturate pos rounded, min_eq_left (roundAway_le fits)]
  exact Millis.saturate_of_inRange (by omega) (by omega)

/-- There is room for a window of a length that fits. -/
theorem exists_zoomedTo (start : Binary64) (whole : Representable x) (short : x ≤ v.full.width.count) :
    ∃ zoom : Window, v.zoomedTo start (.finite x) = .ok { v with zoom := some zoom } ∧
      zoom.Within v.full ∧ zoom.width.count = roundAway x := by
  have length := spanWidth_of_fits whole short
  have bound := roundAway_le short
  have edges := v.full.width_le_edges
  obtain ⟨zoom, placed, _⟩ :=
    place_of_room start (show (spanWidth v.full (.finite x)).count ≤ _ by omega)
  refine ⟨zoom, by rw [zoomedTo, placed]; rfl, within_of_place placed, ?_⟩
  rw [width_of_place placed, length]

/-! ## Zooming by a factor -/

/-- The length of the window times a factor, as binary64 has it. -/
def asked (v : Viewport) (factor : Rat) : Rat :=
  nearest (nearest v.current.width.count * nearest factor)

theorem representable_asked (v : Viewport) {factor : Rat} (pos : 0 ≤ factor) :
    Representable (v.asked factor) :=
  representable_nearest
    (mul_nonneg (nearest_nonneg (Int.cast_nonneg v.current.width_nonneg)) (nearest_nonneg pos))

theorem toBinary64_mul_eq_asked (v : Viewport) {factor : Rat} (pos : 0 ≤ factor)
    (le_two : factor ≤ 2) :
    v.current.width.toBinary64 * .ofRat factor = .finite (v.asked factor) :=
  Millis.toBinary64_mul v.current.width_nonneg pos le_two

/-- Doubling is exact, but for the length that is doubled. -/
theorem asked_two (v : Viewport) : v.asked 2 = 2 * nearest v.current.width.count := by
  have whole := representable_nearest (Int.cast_nonneg (R := Rat) v.current.width_nonneg)
  rw [asked, nearest_two, mul_comm, nearest_of_representable whole.double]

/-- Halving is exact, but for the length that is halved. -/
theorem asked_half (v : Viewport) : v.asked (1 / 2) = nearest v.current.width.count / 2 := by
  obtain ⟨units, rounded⟩ := exists_nearest_intCast v.current.width_nonneg
  have whole : Representable units :=
    rounded ▸ representable_nearest (Int.cast_nonneg v.current.width_nonneg)
  rw [asked, nearest_half, rounded, mul_one_div, nearest_of_representable whole.half]

/-- A length of which no less than a half is asked for does not vanish. -/
theorem half_le_asked {factor : Rat} (pos : 0 < v.current.width.count) (half_le : 1 / 2 ≤ factor) :
    1 / 2 ≤ v.asked factor := by
  have scale := half_le_nearest half_le
  have scale_pos : 0 ≤ nearest factor := le_trans (by norm_num) scale
  exact half_le_nearest (scale.trans (le_mul_of_one_le_left scale_pos (Millis.one_le_nearest_count pos)))

/-- Three roundings stand between a length and what is asked for: of the length, of the factor and
of their product. -/
theorem asked_bounds {factor : Rat} (pos : 0 < v.current.width.count) (half_le : 1 / 2 ≤ factor) :
    v.current.width.count * factor * (1 - 1 / 2 ^ 53) ^ 3 ≤ v.asked factor ∧
      v.asked factor ≤ v.current.width.count * factor * (1 + 1 / 2 ^ 53) ^ 3 := by
  have length : (1 / 2 : Rat) ≤ v.current.width.count := by
    have one : (1 : Rat) ≤ v.current.width.count := by exact_mod_cast pos
    linarith
  have rounded := Millis.one_le_nearest_count pos
  have scale := half_le_nearest half_le
  have rounded_pos : 0 ≤ nearest v.current.width.count := zero_le_one.trans rounded
  have scale_pos : 0 ≤ nearest factor := le_trans (by norm_num) scale
  have product : 1 / 2 ≤ nearest v.current.width.count * nearest factor :=
    scale.trans (le_mul_of_one_le_left scale_pos rounded)
  have length_le := nearest_le_of_half_le length
  have le_length := le_nearest_of_half_le length
  have factor_le := nearest_le_of_half_le half_le
  have le_factor := le_nearest_of_half_le half_le
  have product_le := nearest_le_of_half_le product
  have le_product := le_nearest_of_half_le product
  unfold asked
  generalize nearest v.current.width.count = a at *
  generalize nearest factor = b at *
  generalize (v.current.width.count : Rat) = w at *
  constructor
  · calc w * factor * (1 - 1 / 2 ^ 53) ^ 3
        = w * (1 - 1 / 2 ^ 53) * (factor * (1 - 1 / 2 ^ 53)) * (1 - 1 / 2 ^ 53) := by ring
      _ ≤ a * b * (1 - 1 / 2 ^ 53) := by
          gcongr
      _ ≤ nearest (a * b) := le_product
  · calc nearest (a * b) ≤ a * b * (1 + 1 / 2 ^ 53) := product_le
      _ ≤ w * (1 + 1 / 2 ^ 53) * (factor * (1 + 1 / 2 ^ 53)) * (1 + 1 / 2 ^ 53) := by
          gcongr
      _ = w * factor * (1 + 1 / 2 ^ 53) ^ 3 := by ring

/-- What becomes of a viewport that is asked for a length. -/
inductive Scaled (v : Viewport) (length : Rat) : Viewport → Prop
  /-- The length reaches the full extent, which is shown. -/
  | spread (reaches : nearest v.full.width.count ≤ length) : Scaled v length { v with zoom := none }
  /-- The length is shorter than the full extent, and a window of about that length is shown. -/
  | fit {zoom : Window} (less : length < nearest v.full.width.count)
      (short : length < v.full.width.count) (within : zoom.Within v.full)
      (width : zoom.width.count = roundAway length) : Scaled v length { v with zoom := some zoom }

/-- A number of the format that is less than the one nearest to the full length is less than the
full length itself, so that there is room for it. -/
theorem exists_scaled (v : Viewport) (start : Binary64) (whole : Representable x) :
    ∃ u, (if v.full.width.toBinary64.le (.finite x) then .ok { v with zoom := none }
      else v.zoomedTo start (.finite x)) = .ok u ∧ v.Scaled x u := by
  have full_pos : (0 : Rat) ≤ v.full.width.count := Int.cast_nonneg v.full.width_nonneg
  rw [Millis.toBinary64_eq v.full.width_nonneg]
  by_cases reaches : nearest v.full.width.count ≤ x
  · exact ⟨_, if_pos (by simpa [le] using reaches), .spread reaches⟩
  · have less := not_le.mp reaches
    have short := whole.le_of_lt_nearest full_pos less
    have shorter : x < v.full.width.count := by
      refine lt_of_le_of_ne short fun same => ?_
      rw [← same, nearest_of_representable whole] at less
      exact lt_irrefl _ less
    obtain ⟨zoom, zoomed, within, width⟩ := exists_zoomedTo (v := v) start whole short
    exact ⟨_, (if_neg (by simpa [le] using less)).trans zoomed, .fit less shorter within width⟩

theorem exists_zoomOut (v : Viewport) : ∃ u, v.zoomOut = .ok u ∧ v.Scaled (v.asked 2) u := by
  have double : number 2 = .ofRat 2 := by
    rw [number, ofInt]
    norm_num
  rw [zoomOut, double, v.toBinary64_mul_eq_asked (by norm_num) (by norm_num)]
  exact v.exists_scaled _ (v.representable_asked (by norm_num))

theorem exists_wheel (v : Viewport) (direction : Wheel) (cursor : Binary64) :
    ∃ u, v.wheel direction cursor = .ok u ∧ v.Scaled (v.asked direction.ratio) u := by
  have pos : 0 ≤ direction.ratio := le_trans (by norm_num) direction.half_le_ratio
  rw [wheel, direction.factor_eq, v.toBinary64_mul_eq_asked pos direction.ratio_le_two]
  exact v.exists_scaled _ (v.representable_asked pos)

/-- A factor of at least one keeps what is nearest to the length. -/
theorem le_asked (v : Viewport) {factor : Rat} (one_le : 1 ≤ factor) :
    nearest v.current.width.count ≤ v.asked factor := by
  have length_pos : 0 ≤ nearest v.current.width.count :=
    nearest_nonneg (Int.cast_nonneg v.current.width_nonneg)
  have whole := representable_nearest (Int.cast_nonneg (R := Rat) v.current.width_nonneg)
  exact whole.le_nearest length_pos (le_mul_of_one_le_right length_pos (one_le_nearest one_le))

/-- A window that is as long as the full extent is not made longer. -/
theorem Scaled.eq_spread {u : Viewport} {factor : Rat} (scaled : v.Scaled (v.asked factor) u)
    (one_le : 1 ≤ factor) (long : v.full.width.count ≤ v.current.width.count) :
    u = { v with zoom := none } := by
  cases scaled with
  | spread => rfl
  | fit less =>
    have wider : nearest v.full.width.count ≤ nearest v.current.width.count :=
      nearest_mono (Int.cast_nonneg v.full.width_nonneg) (Int.cast_le.mpr long)
    exact absurd less (not_lt.mpr (wider.trans (v.le_asked one_le)))

/-- Half of the number nearest to a length is a number of the format, and so less than the number
nearest to the full length. -/
theorem exists_zoomIn (within : v.current.Within v.full) :
    ∃ zoom : Window, v.zoomIn = .ok { v with zoom := some zoom } ∧ zoom.Within v.full ∧
      zoom.width.count = roundAway (v.asked (1 / 2)) := by
  have full_pos : (0 : Rat) ≤ v.full.width.count := Int.cast_nonneg v.full.width_nonneg
  have length_pos : (0 : Rat) ≤ v.current.width.count := Int.cast_nonneg v.current.width_nonneg
  have whole : Representable (v.asked (1 / 2)) := v.representable_asked (by norm_num)
  have fits : v.asked (1 / 2) ≤ v.full.width.count := by
    have wider : nearest v.current.width.count ≤ nearest v.full.width.count :=
      nearest_mono length_pos (Int.cast_le.mpr within.width_le)
    rw [asked_half] at whole ⊢
    rcases (nearest_nonneg length_pos).eq_or_lt with none | some_length
    · rw [← none, zero_div]
      exact full_pos
    · exact whole.le_of_lt_nearest full_pos ((half_lt_self some_length).trans_le wider)
  rw [zoomIn, v.toBinary64_mul_eq_asked (by norm_num) (by norm_num)]
  exact exists_zoomedTo _ whole fits

/-! ## Zooms that leave nothing out -/

/-- Whether there is a zoom that is no shorter than the full extent. -/
def Unsnapped (v : Viewport) : Prop :=
  v.isZoomed = true ∧ v.full.width ≤ v.current.width

instance (v : Viewport) : Decidable v.Unsnapped :=
  inferInstanceAs (Decidable (v.isZoomed = true ∧ v.full.width ≤ v.current.width))

variable {u : Viewport}

theorem Scaled.unsnapped_iff (scaled : v.Scaled x u) (whole : Representable x) :
    u.Unsnapped ↔ (v.full.width.count : Rat) - 1 / 2 ≤ x ∧ x < v.full.width.count := by
  have pos := whole.nonneg
  cases scaled with
  | spread reaches =>
    have shows_full : ¬ ({ v with zoom := none } : Viewport).Unsnapped := fun h => by cases h.1
    refine iff_of_false shows_full fun ⟨near, short⟩ => ?_
    rcases le_or_gt v.full.width.count (2 ^ 53) with exact_width | long
    · rw [nearest_intCast (by have := v.full.width_nonneg; omega) exact_width] at reaches
      exact absurd short (not_lt.mpr reaches)
    · -- Numbers of this size are whole, and there is none within half a millisecond.
      have long : (2 ^ 53 : Rat) < v.full.width.count := by exact_mod_cast long
      obtain ⟨n, rfl⟩ := whole.exists_intCast (by linarith)
      have next : (v.full.width.count : Rat) < n + 1 := by linarith
      have next : v.full.width.count < n + 1 := by exact_mod_cast next
      have short : n < v.full.width.count := Int.cast_lt.mp short
      omega
  | @fit zoom _ short _ width =>
    have shows_zoom : ({ v with zoom := some zoom } : Viewport).Unsnapped ↔
        v.full.width.count ≤ roundAway x := by
      rw [← width]
      exact and_iff_right rfl
    rw [shows_zoom, le_roundAway_iff pos, and_iff_left short]

theorem zoomOut_snaps (v : Viewport) : ∃ u, v.zoomOut = .ok u ∧ ¬ u.Unsnapped := by
  obtain ⟨u, became, scaled⟩ := v.exists_zoomOut
  refine ⟨u, became, fun unsnapped => ?_⟩
  obtain ⟨near, short⟩ := (scaled.unsnapped_iff (v.representable_asked (by norm_num))).mp unsnapped
  obtain ⟨units, rounded⟩ := exists_nearest_intCast v.current.width_nonneg
  rw [asked_two, rounded] at near short
  have next : (v.full.width.count : Rat) < 2 * units + 1 := by linarith
  have next : v.full.width.count < 2 * units + 1 := by exact_mod_cast next
  have short : 2 * (units : Int) < v.full.width.count := by exact_mod_cast short
  omega

/-- A chosen window that is shorter than the full extent leaves nothing out only if its length is
rounded up to the full one. -/
theorem zoomTo_unsnapped_iff {window : Window} (became : v.zoomTo window = .ok u) :
    u.Unsnapped ↔ window.width < v.full.width ∧
      (v.full.width.count : Rat) ≤ nearest window.width.count := by
  unfold zoomTo at became
  dsimp only at became
  split at became
  · rename_i wide
    cases became
    exact iff_of_false (fun h => by cases h.1) fun h => absurd wide (Int.not_le.mpr h.1)
  · rename_i notWide
    have short : window.width < v.full.width := Int.not_le.mp notWide
    obtain ⟨zoom, placed, rfl⟩ := zoomedTo_eq_ok became
    obtain ⟨longest, rounded⟩ := exists_nearest_intCast v.full.width_nonneg
    obtain ⟨units, rounded'⟩ := exists_nearest_intCast window.width_nonneg
    have mono : (units : Int) ≤ longest := by
      have length_pos : (0 : Rat) ≤ window.width.count := Int.cast_nonneg window.width_nonneg
      have wider := nearest_mono length_pos (Int.cast_le.mpr (Int.le_of_lt short))
      rw [rounded, rounded'] at wider
      exact_mod_cast wider
    have width : zoom.width = .saturate units := by
      rw [width_of_place placed, Millis.toBinary64_eq window.width_nonneg, rounded',
        spanWidth_eq_saturate (Nat.cast_nonneg units) rounded, roundAway_natCast, min_eq_left mono]
    have bounds := v.full.width_nonneg
    have upper := v.full.width.upper
    have shows_zoom : ({ v with zoom := some zoom, drag := none } : Viewport).Unsnapped ↔
        v.full.width.count ≤ zoom.width.count := and_iff_right rfl
    rw [shows_zoom, and_iff_right short, rounded', width]
    simp only [Millis.saturate]
    norm_cast
    omega

/-! ## In whole milliseconds -/

theorem asked_of_empty (none : v.current.width.count = 0) (factor : Rat) : v.asked factor = 0 := by
  rw [asked, none, Int.cast_zero, nearest_zero, zero_mul, nearest_zero]

/-- Six fifths are rounded down, but not so far that a product that should be whole is missed. -/
theorem full_le_asked_away (small : v.full.width.count ≤ 2 ^ 47)
    (pos : 0 < v.current.width.count) (fits : 5 * v.full.width.count = 6 * v.current.width.count) :
    (v.full.width.count : Rat) ≤ v.asked (6 / 5) := by
  have factor : nearest (6 / 5) = 5404319552844595 / 4503599627370496 := by decide +kernel
  have length : nearest v.current.width.count = v.current.width.count :=
    nearest_intCast (by omega) (by omega)
  have one : (1 : Rat) ≤ v.current.width.count := by exact_mod_cast pos
  have short : (v.current.width.count : Rat) ≤ 2 ^ 47 := by
    have : v.current.width.count ≤ 2 ^ 47 := by omega
    exact_mod_cast this
  have fits : (5 : Rat) * v.full.width.count = 6 * v.current.width.count := by exact_mod_cast fits
  rw [asked, length, factor]
  apply intCast_le_nearest
  · positivity
  · linarith
  · linarith

theorem full_le_asked (direction : Wheel) (within : v.current.Within v.full)
    (small : v.full.width.count ≤ 2 ^ 47) (pos : 0 < v.current.width.count)
    (fits : 5 * v.full.width.count = direction.fifths * v.current.width.count) :
    (v.full.width.count : Rat) ≤ v.asked direction.ratio := by
  cases direction with
  | closer =>
    have shorter := within.width_le
    simp only [Wheel.fifths] at fits
    omega
  | away =>
    rw [Wheel.ratio_away]
    exact full_le_asked_away small pos fits

/-- Up to `2 ^ 47` milliseconds, what is asked for is off by less than a sixteenth. -/
theorem asked_near (direction : Wheel) (pos : 0 < v.current.width.count)
    (short : v.current.width.count ≤ 2 ^ 47) :
    ((direction.fifths * v.current.width.count : Int) : Rat) / 5 - 1 / 16 ≤
        v.asked direction.ratio ∧
      v.asked direction.ratio ≤
        ((direction.fifths * v.current.width.count : Int) : Rat) / 5 + 1 / 16 := by
  obtain ⟨lower, upper⟩ := asked_bounds pos direction.half_le_ratio
  have exact_product : v.current.width.count * direction.ratio =
      ((direction.fifths * v.current.width.count : Int) : Rat) / 5 := by
    rw [Wheel.ratio]
    push_cast
    ring
  have product_pos : 0 ≤ direction.fifths * v.current.width.count := by
    cases direction <;> simp only [Wheel.fifths] <;> omega
  have product_le : direction.fifths * v.current.width.count ≤ 6 * 2 ^ 47 := by
    cases direction <;> simp only [Wheel.fifths] <;> omega
  rw [exact_product] at lower upper
  have product_pos : (0 : Rat) ≤ (direction.fifths * v.current.width.count : Int) :=
    Int.cast_nonneg product_pos
  have product_le : ((direction.fifths * v.current.width.count : Int) : Rat) ≤ 6 * 2 ^ 47 := by
    exact_mod_cast product_le
  constructor <;> linarith

/-- How a number of fifths tells whether a length falls short of a whole one by at most a half. -/
theorem near_iff_fifths {product whole : Int} {length : Rat}
    (above : (product : Rat) / 5 - 1 / 16 ≤ length) (below : length ≤ (product : Rat) / 5 + 1 / 16)
    (reached : 5 * whole = product → (whole : Rat) ≤ length) :
    ((whole : Rat) - 1 / 2 ≤ length ∧ length < whole) ↔
      5 * whole - 2 ≤ product ∧ product < 5 * whole := by
  constructor
  · rintro ⟨near, short⟩
    have low : ((5 * whole - 3 : Int) : Rat) < product := by
      push_cast
      linarith
    have high : (product : Rat) < (5 * whole + 1 : Int) := by
      push_cast
      linarith
    have low := Int.cast_lt.mp low
    have high := Int.cast_lt.mp high
    have missed : 5 * whole ≠ product := fun same => absurd short (not_lt.mpr (reached same))
    omega
  · rintro ⟨near, short⟩
    have near : ((5 * whole - 2 : Int) : Rat) ≤ product := Int.cast_le.mpr near
    have short : (product : Rat) ≤ ((5 * whole - 1 : Int) : Rat) := Int.cast_le.mpr (by omega)
    push_cast at near short
    constructor <;> linarith

/-- For extents of up to `2 ^ 47` milliseconds, what a turn of the wheel asks for falls short of the
full extent by at most half a millisecond exactly if the exact product does. -/
theorem asked_near_iff (direction : Wheel) (within : v.current.Within v.full)
    (small : v.full.width.count ≤ 2 ^ 47) :
    ((v.full.width.count : Rat) - 1 / 2 ≤ v.asked direction.ratio ∧
        v.asked direction.ratio < v.full.width.count) ↔
      5 * v.full.width.count - 2 ≤ direction.fifths * v.current.width.count ∧
        direction.fifths * v.current.width.count < 5 * v.full.width.count := by
  have shorter := within.width_le
  rcases v.current.width_nonneg.eq_or_lt with none | pos
  · -- Nothing is asked for, and no whole number lies within a half above it.
    have exact_zero : v.asked direction.ratio = ((0 : Int) : Rat) / 5 := by
      rw [asked_of_empty none.symm, Int.cast_zero, zero_div]
    rw [← none, mul_zero, exact_zero]
    refine near_iff_fifths (by norm_num) (by norm_num) fun same => ?_
    rw [show v.full.width.count = 0 by omega, Int.cast_zero, zero_div]
  · obtain ⟨above, below⟩ := asked_near direction pos (by omega)
    exact near_iff_fifths above below (full_le_asked direction within small pos)

/-! ## The condition -/

/-- Whether the zoom leaves something out after zooming out, after a turn of the wheel and after
choosing a window.

Zooming out always does: doubled lengths are whole.  A turn of the wheel does unless the length it
asks for falls short of the full extent by at most half a millisecond; up to `2 ^ 47` milliseconds,
some 4,400 years, this is a condition on the lengths in whole milliseconds.  Choosing a window does
unless its length is rounded up to the full one. -/
theorem snaps_iff (v : Viewport) :
    (∃ u, v.zoomOut = .ok u ∧ ¬ u.Unsnapped) ∧
    (∀ direction cursor, ∃ u, v.wheel direction cursor = .ok u ∧
      (u.Unsnapped ↔ (v.full.width.count : Rat) - 1 / 2 ≤ v.asked direction.ratio ∧
        v.asked direction.ratio < v.full.width.count) ∧
      (v.Reachable → v.full.width.count ≤ 2 ^ 47 →
        (u.Unsnapped ↔
          5 * v.full.width.count - 2 ≤ direction.fifths * v.current.width.count ∧
            direction.fifths * v.current.width.count < 5 * v.full.width.count))) ∧
    ∀ window u, v.zoomTo window = .ok u →
      (u.Unsnapped ↔ window.width < v.full.width ∧
        (v.full.width.count : Rat) ≤ nearest window.width.count) := by
  refine ⟨v.zoomOut_snaps, fun direction cursor => ?_, fun window u became => ?_⟩
  · obtain ⟨u, became, scaled⟩ := v.exists_wheel direction cursor
    have pos : 0 ≤ direction.ratio := le_trans (by norm_num) direction.half_le_ratio
    have unsnapped := scaled.unsnapped_iff (v.representable_asked pos)
    refine ⟨u, became, unsnapped, fun reachable small => ?_⟩
    rw [unsnapped, asked_near_iff direction reachable.current_within small]
  · exact zoomTo_unsnapped_iff became

/-- The first five milliseconds of 1970. -/
def firstFive : Window := ⟨.zero, ⟨5, by decide, by decide⟩, by decide⟩

/-- Four milliseconds of five. -/
def fourOfFive : Viewport :=
  (ofExtent firstFive).advance (.zoomTo ⟨.zero, ⟨4, by decide, by decide⟩, by decide⟩)

theorem fourOfFive_reachable : fourOfFive.Reachable :=
  (Reachable.start _).advance _

/-- The first `2 ^ 53 + 4` milliseconds of 1970. -/
def longExtent : Window := ⟨.zero, ⟨9007199254740996, by decide, by decide⟩, by decide⟩

/-- All of them but the last. -/
def almostLong : Window := ⟨.zero, ⟨9007199254740995, by decide, by decide⟩, by decide⟩

theorem snaps_iff_fourOfFive :
    (∃ u, fourOfFive.zoomOut = .ok u ∧ ¬ u.Unsnapped) ∧
    (∃ u, fourOfFive.wheel .away (.ofRat (1 / 2)) = .ok u ∧ u.Unsnapped) ∧
    (∃ u, fourOfFive.wheel .closer (.ofRat (1 / 2)) = .ok u ∧ ¬ u.Unsnapped) ∧
    ((ofExtent longExtent).advance (.zoomTo almostLong)).Unsnapped := by
  obtain ⟨out, turn, _⟩ := snaps_iff fourOfFive
  obtain ⟨_, _, choose⟩ := snaps_iff (ofExtent longExtent)
  have small : fourOfFive.full.width.count ≤ 2 ^ 47 := by decide +kernel
  refine ⟨out, ?_, ?_, ?_⟩
  · obtain ⟨u, became, _, unsnapped⟩ := turn .away (.ofRat (1 / 2))
    exact ⟨u, became, (unsnapped fourOfFive_reachable small).mpr (by decide +kernel)⟩
  · obtain ⟨u, became, _, unsnapped⟩ := turn .closer (.ofRat (1 / 2))
    exact ⟨u, became, fun h => absurd ((unsnapped fourOfFive_reachable small).mp h)
      (by decide +kernel)⟩
  · exact (choose almostLong _ (by decide +kernel)).mpr (by decide +kernel)

/-- A turn of the wheel away from four milliseconds of five asks for less than five and shows
five: the full extent, as a zoom. -/
theorem fourOfFive_unsnapped :
    fourOfFive.Reachable ∧ fourOfFive.isZoomed = true ∧
      (fourOfFive.advance (.wheel .away (.ofRat (1 / 2)))).isZoomed = true ∧
      (fourOfFive.advance (.wheel .away (.ofRat (1 / 2)))).current = fourOfFive.full :=
  ⟨fourOfFive_reachable, by decide +kernel⟩

end Viewport

end HouseholdDashboard
