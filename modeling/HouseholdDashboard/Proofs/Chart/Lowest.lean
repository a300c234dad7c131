import HouseholdDashboard.Chart.Extent
import HouseholdDashboard.Proofs.Chart.Ticks
import Mathlib.Order.Bounds.Defs

/-!
# Windows at the bottom of the range

The first tick is looked for by rounding the start of the window down to a multiple of the interval.
Rounding up again and each step of the climb are checked, but the product that rounds down is not,
and it leaves the range if the window starts before the first multiple that has a place there
(`ofWindow_eq_error_iff`).  Nothing else about ticks can fail.  The first multiple of a day is a
multiple of every interval, so all windows that start from it on have their ticks
(`Tick.exists_ofWindow_of_lowest`).
-/

namespace HouseholdDashboard

namespace Ticks

/-! ## The first multiple in the range -/

/-- The first multiple of a step that has a place in the range. -/
def lowest (step : Int) : Int :=
  -(9223372036854775808 / step * step)

section Step

variable {step : Int}

theorem dvd_lowest : step ∣ lowest step :=
  Int.dvd_neg.mpr (Int.dvd_mul_left _ step)

theorem le_lowest (step_pos : 0 < step) : -9223372036854775808 ≤ lowest step :=
  Int.neg_le_neg (Int.ediv_mul_le _ (Int.ne_of_gt step_pos))

theorem lowest_le_of_dvd (step_pos : 0 < step) {n : Int} (inRange : -9223372036854775808 ≤ n)
    (multiple : step ∣ n) : lowest step ≤ n := by
  obtain ⟨k, rfl⟩ := multiple
  have fewer : -k ≤ 9223372036854775808 / step := by
    refine (Int.le_ediv_iff_mul_le step_pos).mpr ?_
    rw [Int.neg_mul, Int.mul_comm]
    omega
  have products := Int.mul_le_mul_of_nonneg_right fewer (Int.le_of_lt step_pos)
  rw [Int.neg_mul, Int.mul_comm k] at products
  unfold lowest
  omega

theorem isLeast_lowest (step_pos : 0 < step) :
    IsLeast {n : Int | -9223372036854775808 ≤ n ∧ step ∣ n} (lowest step) :=
  ⟨⟨le_lowest step_pos, dvd_lowest⟩, fun _ mem => lowest_le_of_dvd step_pos mem.1 mem.2⟩

/-- Rounding down to a multiple stays in the range from the first multiple on. -/
theorem le_ediv_mul_iff (step_pos : 0 < step) {n : Int} :
    -9223372036854775808 ≤ n / step * step ↔ lowest step ≤ n := by
  constructor
  · intro inRange
    calc lowest step ≤ n / step * step :=
          lowest_le_of_dvd step_pos inRange (Int.dvd_mul_left _ step)
      _ ≤ n := Int.ediv_mul_le n (Int.ne_of_gt step_pos)
  · intro after
    obtain ⟨k, same⟩ : step ∣ lowest step := dvd_lowest
    rw [Int.mul_comm] at same
    have fewer : k ≤ n / step := (Int.le_ediv_iff_mul_le step_pos).mpr (same ▸ after)
    calc -9223372036854775808 ≤ k * step := same ▸ le_lowest step_pos
      _ ≤ n / step * step := Int.mul_le_mul_of_nonneg_right fewer (Int.le_of_lt step_pos)

end Step

/-! ## Windows without ticks -/

section Window

variable {w : Window}

theorem ofWindow_eq_error_iff {fault : ArithmeticFault} :
    ofWindow w = .error fault ↔ fault = .overflow ∧ w.start.count < lowest (interval w) := by
  have fits_iff := le_ediv_mul_iff (interval_pos w) (n := w.start.count)
  rcases ofWindow_cases w with ⟨out, failed⟩ | ⟨fits, found⟩
  · have before : w.start.count < lowest (interval w) := by
      by_contra after
      have := fits_iff.mpr (Int.not_lt.mp after)
      omega
    rw [failed]
    constructor
    · intro same
      cases same
      exact ⟨rfl, before⟩
    · rintro ⟨rfl, -⟩
      rfl
  · have after : lowest (interval w) ≤ w.start.count := fits_iff.mp fits
    obtain ⟨ts, drawn⟩ : ∃ ts, ofWindow w = .ok ts := by
      rcases found with ⟨first, -, -, -, drawn⟩ | ⟨-, drawn⟩
      · exact ⟨_, drawn⟩
      · exact ⟨_, drawn⟩
    rw [drawn]
    constructor
    · intro failed
      cases failed
    · rintro ⟨-, before⟩
      omega

theorem exists_ofWindow_iff : (∃ ts, ofWindow w = .ok ts) ↔ lowest (interval w) ≤ w.start.count := by
  constructor
  · rintro ⟨ts, drawn⟩
    by_contra before
    have failed := ofWindow_eq_error_iff.mpr ⟨rfl, Int.not_le.mp before⟩
    rw [drawn] at failed
    cases failed
  · intro after
    cases drawn : ofWindow w with
    | ok ts => exact ⟨ts, rfl⟩
    | error fault =>
      have before := (ofWindow_eq_error_iff.mp drawn).2
      omega

theorem interval_mem (w : Window) : interval w ∈ intervals := by
  unfold interval
  dsimp only
  cases found : intervals.find? _ with
  | none => exact (by decide : 24 * hour ∈ intervals)
  | some step => exact List.mem_of_find?_eq_some found

end Window

end Ticks

theorem Tick.exists_ofWindow_iff {w : Window} (zone : Zone) :
    (∃ ticks, ofWindow zone w = .ok ticks) ↔
      Ticks.lowest (Ticks.interval w) ≤ w.start.count := by
  rw [← Ticks.exists_ofWindow_iff]
  unfold ofWindow
  cases Ticks.ofWindow w with
  | error fault => constructor <;> rintro ⟨_, none⟩ <;> cases none
  | ok ts => exact ⟨fun _ => ⟨ts, rfl⟩, fun _ => ⟨_, rfl⟩⟩

/-- The first midnight of the range is a multiple of every interval. -/
theorem Tick.exists_ofWindow_of_lowest {w : Window} (zone : Zone)
    (after : Ticks.lowest (24 * Ticks.hour) ≤ w.start.count) :
    ∃ ticks, ofWindow zone w = .ok ticks := by
  have earliest : ∀ i ∈ Ticks.intervals, Ticks.lowest i ≤ Ticks.lowest (24 * Ticks.hour) := by
    decide
  exact (Tick.exists_ofWindow_iff zone).mpr
    (Int.le_trans (earliest _ (Ticks.interval_mem w)) after)

namespace Ticks

/-- The ticks of a window overflow exactly if it starts before the first multiple of its interval
in the range, though that multiple is at or above the start; nothing else fails.  The same windows
have no ticks in any zone. -/
theorem overflows_iff_before_lowest (w : Window) :
    IsLeast {n : Int | -9223372036854775808 ≤ n ∧ interval w ∣ n} (lowest (interval w)) ∧
    (∀ fault, ofWindow w = .error fault ↔
      fault = .overflow ∧ w.start.count < lowest (interval w)) ∧
    ∀ zone, (∃ ticks, Tick.ofWindow zone w = .ok ticks) ↔
      lowest (interval w) ≤ w.start.count := by
  refine ⟨isLeast_lowest (interval_pos w), fun fault => ?_, fun zone => ?_⟩
  · exact ofWindow_eq_error_iff
  · exact Tick.exists_ofWindow_iff zone

/-- The extent of two times a minute apart, the first of them the least time there is. -/
def atBottom : Window :=
  Extent.ofTimes [⟨-9223372036854775808, by decide, by decide⟩,
    ⟨-9223372036854715808, by decide, by decide⟩] [] .zero

/-- A full minute lies in it, but looking for the first one overflows. -/
theorem atBottom_overflows :
    atBottom.contains ⟨-9223372036854720000, by decide, by decide⟩ = true ∧
      minute ∣ -9223372036854720000 ∧ ofWindow atBottom = .error .overflow := by
  decide +kernel

end Ticks

end HouseholdDashboard
