import HouseholdDashboard.Time.Millis

/-!
# Bounds that numbers keep

Rounding keeps the sign, a clamped number is never below the lower bound, and cutting a number to
a count of milliseconds keeps every bound that is itself a count.  None of this needs the number
to be finite: infinities are cut to the ends of the range, and what is not a number to zero.
-/

namespace HouseholdDashboard

namespace Binary64

theorem finite_lt_eq_false {x y : Rat} : (finite x).lt (.finite y) = false ↔ y ≤ x := by
  simp only [lt, decide_eq_false_iff_not, Rat.not_lt]

/-! ## Rounding -/

theorem roundEven_nonneg {x : Rat} (h : 0 ≤ x) : 0 ≤ roundEven x := by
  have below : 0 ≤ x.floor := Rat.le_floor_iff.mpr h
  have parity : 0 ≤ x.floor % 2 := Int.emod_nonneg _ (by decide)
  unfold roundEven
  dsimp only
  split
  · exact below
  · split <;> omega

theorem nearest_nonneg {x : Rat} (h : 0 ≤ x) : 0 ≤ nearest x := by
  have step : (0 : Rat) < (2 : Rat) ^ gridExponent x := Rat.zpow_pos (by decide)
  have scaled : 0 ≤ x / (2 : Rat) ^ gridExponent x := by
    rw [Rat.div_def]
    exact Rat.mul_nonneg h (Rat.le_of_lt (Rat.inv_pos.mpr step))
  exact Rat.mul_nonneg (Rat.intCast_nonneg.mpr (roundEven_nonneg scaled)) (Rat.le_of_lt step)

theorem ofRat_lt_zero {x : Rat} (h : 0 ≤ x) : (ofRat x).lt (.finite 0) = false := by
  unfold ofRat
  dsimp only
  split
  · exact finite_lt_eq_false.mpr (nearest_nonneg h)
  · simp [lt, Rat.not_lt.mpr h]

theorem ofInt_lt_zero {n : Int} (h : 0 ≤ n) : (ofInt n).lt (.finite 0) = false :=
  ofRat_lt_zero (Rat.intCast_nonneg.mpr h)

/-- An integer is kept as a bound when a number is cut to its integer part. -/
theorem le_truncate {n : Int} {x : Rat} (h : (n : Rat) ≤ x) : n ≤ truncate x := by
  unfold truncate
  split
  · exact Rat.le_floor_iff.mpr h
  · exact Rat.intCast_le_intCast.mp (Rat.le_trans h Rat.le_ceil)

/-! ## Bounds -/

/-- A clamped number is not below the lower bound, if the upper one is not. -/
theorem clamp_lt_low {x high : Binary64} {low : Rat} (room : high.lt (.finite low) = false) :
    (x.clamp (.finite low) high).lt (.finite low) = false := by
  unfold clamp
  split
  · exact finite_lt_eq_false.mpr Rat.le_refl
  · rename_i above
    split
    · exact room
    · simpa using above

theorem max_lt_right {a : Binary64} {b : Rat} : (a.max (.finite b)).lt (.finite b) = false := by
  unfold max
  split
  · exact finite_lt_eq_false.mpr Rat.le_refl
  · rename_i above
    split
    · exact finite_lt_eq_false.mpr Rat.le_refl
    · simpa using above

theorem max_ne_nan {a : Binary64} {b : Rat} : a.max (.finite b) ≠ nan := by
  unfold max
  split
  · simp
  · split
    · simp
    · assumption

end Binary64

namespace Millis

/-! ## Cutting to a count -/

/-- A count is kept as a bound when a number is cut to a count. -/
theorem le_ofBinary64 {m : Millis} {x : Binary64} (number : x ≠ .nan)
    (bound : x.lt (.finite m.count) = false) : m ≤ ofBinary64 x := by
  have low := m.lower
  have high := m.upper
  rw [le_iff]
  cases x with
  | nan => exact absurd rfl number
  | infinite negative =>
    cases negative with
    | true => simp [Binary64.lt] at bound
    | false => simp only [ofBinary64, saturate, Bool.false_eq_true, if_false]; omega
  | finite r =>
    have cut := Binary64.le_truncate (Binary64.finite_lt_eq_false.mp bound)
    simp only [ofBinary64, saturate]
    omega

theorem ofBinary64_nonneg {x : Binary64} (h : x.lt (.finite 0) = false) :
    0 ≤ (ofBinary64 x).count := by
  by_cases number : x = .nan
  · subst number
    exact Int.le_refl _
  · exact le_ofBinary64 (m := zero) number h

end Millis

end HouseholdDashboard
