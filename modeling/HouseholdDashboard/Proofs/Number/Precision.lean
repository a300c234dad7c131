import HouseholdDashboard.Proofs.Number.Rounding

/-!
# Signs and precision

Rounding treats both signs alike (`nearest_neg`), so that what is known of numbers that are not
negative holds of all.  From a half on, a number moves by at most a part in `2 ^ 53` of itself when
it is rounded (`le_nearest_of_half_le`, `nearest_le_of_half_le`), and whole numbers of up to
`2 ^ 53` on either side of zero do not move at all (`nearest_intCast`), nor do as many quarters
(`ofRat_quarter`).
-/

namespace HouseholdDashboard

namespace Binary64

/-! ## The other sign -/

/-- A tie has the same even neighbour on the other side of zero. -/
theorem roundEven_neg (x : Rat) : roundEven (-x) = -roundEven x := by
  have below := Rat.floor_le x
  have above := Rat.lt_floor_add_one x
  push_cast at above
  by_cases whole : x = x.floor
  · rw [whole, ← Int.cast_neg, roundEven_intCast, roundEven_intCast]
  · have inside : (x.floor : Rat) < x := lt_of_le_of_ne below (Ne.symm whole)
    have mirrored : (-x).floor = -x.floor - 1 := by
      have low : (-x.floor - 1 : Int) ≤ (-x).floor := by
        rw [Rat.le_floor_iff]
        push_cast
        linarith
      have high : (-x).floor < -x.floor := by
        rw [Rat.floor_lt_iff]
        push_cast
        linarith
      omega
    unfold roundEven
    rw [mirrored]
    dsimp only
    push_cast
    split_ifs <;> first | omega | linarith

theorem gridExponent_neg (x : Rat) : gridExponent (-x) = gridExponent x := by
  simp only [gridExponent, binaryExponent, Rat.neg_num, Rat.neg_den, Int.natAbs_neg, Rat.abs_neg]

theorem nearest_neg (x : Rat) : nearest (-x) = -nearest x := by
  unfold nearest
  dsimp only
  rw [gridExponent_neg, neg_div, roundEven_neg, Int.cast_neg, neg_mul]

/-- Rounding takes away at most half a multiple. -/
theorem sub_le_nearest (x : Rat) : x - (2 : Rat) ^ gridExponent x / 2 ≤ nearest x := by
  have added := nearest_le_add (-x)
  rw [nearest_neg, gridExponent_neg] at added
  linarith

/-- Rounding reaches a multiple from less than half a multiple below it. -/
theorem le_nearest_of_sub_lt {x : Rat} {units : Int}
    (near : units * (2 : Rat) ^ gridExponent x - (2 : Rat) ^ gridExponent x / 2 < x) :
    units * (2 : Rat) ^ gridExponent x ≤ nearest x := by
  have scaled : (units : Rat) - 1 / 2 < x / (2 : Rat) ^ gridExponent x := by
    rw [lt_div_iff₀ (step_pos x)]
    linarith
  have down := roundEven_le (-(x / (2 : Rat) ^ gridExponent x))
  rw [roundEven_neg] at down
  push_cast at down
  have above : ((units - 1 : Int) : Rat) < roundEven (x / (2 : Rat) ^ gridExponent x) := by
    push_cast
    linarith
  have reached : units ≤ roundEven (x / (2 : Rat) ^ gridExponent x) := by
    have := Int.cast_lt.mp above
    omega
  exact mul_le_mul_of_nonneg_right (Int.cast_le.mpr reached) (step_pos x).le

/-- A number is its own nearest one if it is a number of the format but for its sign. -/
theorem nearest_of_representable_abs {x : Rat} (whole : Representable x.abs) : nearest x = x := by
  rcases le_total 0 x with pos | neg
  · rw [Rat.abs_of_nonneg pos] at whole
    exact nearest_of_representable whole
  · rw [Rat.abs_of_nonpos neg] at whole
    rw [← neg_neg x, nearest_neg, nearest_of_representable whole]

theorem ofRat_of_representable_abs {x : Rat} (whole : Representable x.abs)
    (small : x.abs ≤ 2 ^ 128) : ofRat x = .finite x := by
  have far : (2 : Rat) ^ 128 < 2 ^ 1024 := pow_lt_pow_right₀ (by norm_num) (by norm_num)
  unfold ofRat
  dsimp only
  rw [nearest_of_representable_abs whole, if_pos (small.trans_lt far)]

theorem abs_intCast (n : Int) : (n : Rat).abs = n.natAbs := by
  obtain ⟨m, rfl | rfl⟩ := n.eq_nat_or_neg
  · rw [Int.cast_natCast, Rat.abs_of_nonneg (Nat.cast_nonneg m), Int.natAbs_natCast]
  · rw [Int.cast_neg, Rat.abs_neg, Int.cast_natCast, Rat.abs_of_nonneg (Nat.cast_nonneg m),
      Int.natAbs_neg, Int.natAbs_natCast]

/-! ## Whole numbers and quarters of either sign -/

theorem representable_abs_intCast {n : Int} (low : -2 ^ 53 ≤ n) (high : n ≤ 2 ^ 53) :
    Representable (n : Rat).abs := by
  rw [abs_intCast]
  exact representable_natCast (by omega)

theorem nearest_intCast {n : Int} (low : -2 ^ 53 ≤ n) (high : n ≤ 2 ^ 53) :
    nearest n = n :=
  nearest_of_representable_abs (representable_abs_intCast low high)

theorem ofInt_eq {n : Int} (low : -2 ^ 53 ≤ n) (high : n ≤ 2 ^ 53) : ofInt n = .finite n := by
  refine ofRat_of_representable_abs (representable_abs_intCast low high) ?_
  rw [abs_intCast]
  have small : n.natAbs ≤ 2 ^ 128 := by omega
  exact_mod_cast small

theorem ofRat_quarter {n : Int} (low : -2 ^ 53 < n) (high : n < 2 ^ 53) :
    ofRat (n / 4) = .finite (n / 4) := by
  have quarter : ((n : Rat) / 4).abs = 2 * ((n.natAbs : Rat) / 8) := by
    rcases le_total 0 (n : Rat) with pos | neg
    · rw [← abs_intCast, Rat.abs_of_nonneg pos, Rat.abs_of_nonneg (by positivity)]
      ring
    · rw [← abs_intCast, Rat.abs_of_nonpos neg, Rat.abs_of_nonpos (by linarith)]
      ring
  have small : (n.natAbs : Rat) ≤ 2 ^ 53 := by
    have small : n.natAbs ≤ 2 ^ 53 := by omega
    exact_mod_cast small
  refine ofRat_of_representable_abs ?_ ?_ <;> rw [quarter]
  · exact (Representable.eighth (by omega)).double
  · linarith

/-! ## Halves -/

theorem ceil_half (n : Int) : ⌈(n : Rat) / 2⌉ = (n + 1) / 2 := by
  refine eq_of_forall_ge_iff fun m => ?_
  rw [Int.ceil_le, div_le_iff₀ two_pos]
  have doubled : (m : Rat) * 2 = ((m * 2 : Int) : Rat) := by
    push_cast
    rfl
  rw [doubled, Int.cast_le]
  omega

/-- Half of a length is rounded up. -/
theorem roundAway_half {n : Int} (pos : 0 ≤ n) : roundAway (n / 2) = ⌈(n : Rat) / 2⌉ := by
  rw [ceil_half]
  refine eq_of_forall_le_iff fun m => ?_
  have half_pos : (0 : Rat) ≤ n / 2 := div_nonneg (Int.cast_nonneg pos) (by norm_num)
  have scaled : (m : Rat) - 1 / 2 ≤ n / 2 ↔ ((2 * m : Int) : Rat) ≤ (n + 1 : Int) := by
    push_cast
    constructor <;> intro h <;> linarith
  rw [le_roundAway_iff half_pos, scaled, Int.cast_le]
  omega

/-- To halve again and again, rounding up each time, is to divide once and then round up. -/
theorem ceil_ceil_div_two (x : Rat) : ⌈((⌈x⌉ : Int) : Rat) / 2⌉ = ⌈x / 2⌉ := by
  refine eq_of_forall_ge_iff fun m => ?_
  have doubled : (m : Rat) * 2 = ((m * 2 : Int) : Rat) := by
    push_cast
    rfl
  rw [Int.ceil_le, Int.ceil_le, div_le_iff₀ two_pos, div_le_iff₀ two_pos, doubled, Int.cast_le,
    Int.ceil_le]

/-! ## Adding and multiplying by nothing -/

/-- A difference of nothing stays nothing, whatever it is divided by. -/
theorem sub_self_div {x : Rat} {y : Binary64} (pos : (finite 0).lt y = true) :
    (finite x - finite x) / y = finite 0 := by
  have none : finite x - finite x = finite 0 := by
    show ofRat (x + -x) = finite 0
    rw [add_neg_cancel, ofRat_eq_finite (le_refl _) (by norm_num), nearest_zero]
  rw [none]
  cases y with
  | nan => cases pos
  | infinite negative => rfl
  | finite y =>
    have nonzero : y ≠ 0 := by
      rintro rfl
      exact absurd pos (by decide +kernel)
    rw [finite_div nonzero, zero_div, ofRat_eq_finite (le_refl _) (by norm_num), nearest_zero]

theorem finite_zero_mul (x : Rat) : finite 0 * finite x = finite 0 := by
  show ofRat (0 * x) = finite 0
  rw [zero_mul, ofRat_eq_finite (le_refl _) (by norm_num), nearest_zero]

theorem intCast_sub_zero {n : Int} (low : -2 ^ 53 ≤ n) (high : n ≤ 2 ^ 53) :
    finite n - finite 0 = finite n := by
  show ofRat (n + -0) = finite n
  rw [neg_zero, add_zero]
  exact ofInt_eq low high

/-! ## The part that rounding adds or takes away -/

theorem step_le_of_half_le {x : Rat} (h : 1 / 2 ≤ x) : (2 : Rat) ^ gridExponent x ≤ x / 2 ^ 52 := by
  have pos : 0 < x := lt_of_lt_of_le (by norm_num) h
  have coarse : -1074 < gridExponent x := by
    by_contra finest
    have tiny : (2 : Rat) ^ gridExponent x ≤ 2 ^ (-1074 : Int) :=
      zpow_le_zpow_right₀ (by norm_num) (by omega)
    have short := lt_grid pos
    have small : (2 : Rat) ^ 53 * 2 ^ (-1074 : Int) ≤ 2 ^ (-1 : Int) := by
      rw [← zpow_natCast, ← zpow_add₀ (by norm_num)]
      exact zpow_le_zpow_right₀ (by norm_num) (by norm_num)
    rw [zpow_neg_one, ← one_div] at small
    linarith
  rw [le_div_iff₀ (by norm_num), mul_comm]
  exact grid_le pos coarse

theorem le_nearest_of_half_le {x : Rat} (h : 1 / 2 ≤ x) : x * (1 - 1 / 2 ^ 53) ≤ nearest x := by
  have step := step_le_of_half_le h
  have taken := sub_le_nearest x
  linarith

theorem nearest_le_of_half_le {x : Rat} (h : 1 / 2 ≤ x) : nearest x ≤ x * (1 + 1 / 2 ^ 53) := by
  have step := step_le_of_half_le h
  have added := nearest_le_add x
  linarith

/-- A whole number is reached from a part in `2 ^ 54` below it. -/
theorem intCast_le_nearest {x : Rat} {n : Int} (pos : 0 < x) (small : x < 2 ^ 53)
    (near : n - x / 2 ^ 54 ≤ x) : n ≤ nearest x := by
  have whole : gridExponent x ≤ 0 := gridExponent_le pos (by norm_num) (by simpa using small)
  obtain ⟨digits, same⟩ := Int.eq_ofNat_of_zero_le (Int.neg_nonneg_of_nonpos whole)
  have multiple : ((n * 2 ^ digits : Int) : Rat) * (2 : Rat) ^ gridExponent x = n := by
    rw [show gridExponent x = -(digits : Int) by omega, zpow_neg, zpow_natCast]
    push_cast
    field_simp
  have long := lt_grid pos
  rw [← multiple]
  refine le_nearest_of_sub_lt ?_
  rw [multiple]
  linarith

end Binary64

end HouseholdDashboard
