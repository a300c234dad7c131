import HouseholdDashboard.Proofs.Number.Bounds
import Mathlib.Algebra.Order.Field.Power
import Mathlib.Data.Rat.Floor
import Mathlib.Tactic.Linarith
import Mathlib.Tactic.Positivity

/-!
# What rounding keeps

The numbers of the format near a positive `x` are the multiples of a power of two, of which `x` is
at least `2 ^ 52` and less than `2 ^ 53` multiples long, unless it is one of the very small numbers.
From this follows that a number of the format is its own nearest one (`nearest_of_representable`),
that what is nearest is a number of the format (`representable_nearest`), and that rounding keeps
the order (`nearest_mono`).

Whole numbers are rounded to from either side of zero.  Otherwise only numbers that are not negative
are considered: lengths are what gets rounded here.
-/

namespace HouseholdDashboard

namespace Binary64

/-! ## The nearest integer -/

theorem floor_le_roundEven (x : Rat) : x.floor ≤ roundEven x ∧ roundEven x ≤ x.floor + 1 := by
  unfold roundEven
  dsimp only
  split
  · omega
  · split <;> omega

theorem roundEven_le (x : Rat) : roundEven x ≤ x + 1 / 2 := by
  have below := Rat.floor_le x
  unfold roundEven
  dsimp only
  split
  · linarith
  · split
    · push_cast
      linarith
    · have parity : x.floor % 2 ≤ 1 := by omega
      have parity : ((x.floor % 2 : Int) : Rat) ≤ 1 := by exact_mod_cast parity
      push_cast
      linarith

theorem roundEven_intCast (n : Int) : roundEven n = n := by
  unfold roundEven
  simp

theorem roundEven_mono {x y : Rat} (h : x ≤ y) : roundEven x ≤ roundEven y := by
  rcases Int.lt_or_eq_of_le (Rat.floor_monotone h) with below | same
  · have above := (floor_le_roundEven x).2
    have below' := (floor_le_roundEven y).1
    omega
  · have further : x - y.floor ≤ y - y.floor := by linarith
    unfold roundEven
    rw [same]
    dsimp only
    generalize x - y.floor = beyond at further
    generalize y - y.floor = beyond' at further
    split
    · split
      · exact Int.le_refl _
      · split <;> omega
    · rename_i half
      have half' : ¬ beyond' < 1 / 2 := by linarith
      rw [if_neg half']
      split
      · rename_i past
        have past' : 1 / 2 < beyond' := by linarith
        rw [if_pos past']
      · split <;> omega

/-- The nearest integer is at most half a unit away. -/
theorem roundAway_bounds (x : Rat) : x - 1 / 2 ≤ roundAway x ∧ roundAway x ≤ x + 1 / 2 := by
  unfold roundAway
  split
  · have above := Rat.lt_floor_add_one (x + 1 / 2)
    push_cast at above
    exact ⟨by linarith, Rat.floor_le _⟩
  · have below := Rat.ceil_lt (x := x - 1 / 2)
    exact ⟨Rat.le_ceil, by linarith⟩

theorem le_roundAway {x : Rat} {n : Int} (h : n ≤ x) : n ≤ roundAway x := by
  have near := (roundAway_bounds x).1
  have next : (n : Rat) < roundAway x + 1 := by linarith
  exact Int.lt_add_one_iff.mp (by exact_mod_cast next)

theorem roundAway_le {x : Rat} {n : Int} (h : x ≤ n) : roundAway x ≤ n := by
  have near := (roundAway_bounds x).2
  have next : (roundAway x : Rat) < n + 1 := by linarith
  exact Int.lt_add_one_iff.mp (by exact_mod_cast next)

theorem roundAway_intCast (n : Int) : roundAway n = n :=
  Int.le_antisymm (roundAway_le le_rfl) (le_roundAway le_rfl)

/-- A half is rounded away from zero. -/
theorem le_roundAway_iff {x : Rat} {n : Int} (pos : 0 ≤ x) :
    n ≤ roundAway x ↔ (n : Rat) - 1 / 2 ≤ x := by
  rw [roundAway, if_pos pos, Rat.le_floor_iff, sub_le_iff_le_add]

theorem one_le_roundAway {x : Rat} (half_le : 1 / 2 ≤ x) : 1 ≤ roundAway x := by
  rw [le_roundAway_iff (le_trans (by norm_num) half_le)]
  norm_num
  linarith

theorem roundAway_natCast (n : Nat) : roundAway n = n := by
  rw [← Int.cast_natCast, roundAway_intCast]

/-! ## The grid -/

theorem two_pow_log2_le {n : Nat} (pos : 0 < n) :
    (2 : Rat) ^ (n.log2 : Int) ≤ n ∧ (n : Rat) < (2 : Rat) ^ ((n.log2 : Int) + 1) := by
  constructor
  · exact_mod_cast Nat.log2_self_le pos.ne'
  · exact_mod_cast Nat.lt_log2_self (n := n)

/-- The lengths of its parts tell the exponent of a fraction but for one. -/
theorem log2_sub_bounds {x : Rat} (pos : 0 < x) :
    (2 : Rat) ^ ((x.num.natAbs.log2 : Int) - x.den.log2 - 1) < x ∧
      x < (2 : Rat) ^ ((x.num.natAbs.log2 : Int) - x.den.log2 + 1) := by
  have num_pos : 0 < x.num := Rat.num_pos.mpr pos
  have value : x * x.den = x.num.natAbs := by
    have same : ((x.num.natAbs : Int) : Rat) = x.num := by rw [Int.natAbs_of_nonneg num_pos.le]
    rw [Rat.mul_den_eq_num, ← same, Int.cast_natCast]
  obtain ⟨num_above, num_below⟩ := two_pow_log2_le (n := x.num.natAbs) (by omega)
  obtain ⟨den_above, den_below⟩ := two_pow_log2_le x.den_pos
  generalize (x.num.natAbs.log2 : Int) = digits at num_above num_below ⊢
  generalize (x.den.log2 : Int) = digits' at den_above den_below ⊢
  constructor
  · have power : 0 ≤ (2 : Rat) ^ (digits' + 1) := by positivity
    refine lt_of_mul_lt_mul_right ?_ power
    calc (2 : Rat) ^ (digits - digits' - 1) * 2 ^ (digits' + 1) = 2 ^ digits := by
          rw [← zpow_add₀ (by norm_num)]
          congr 1
          omega
      _ ≤ x * x.den := num_above.trans_eq value.symm
      _ < x * 2 ^ (digits' + 1) := by gcongr
  · have power : 0 ≤ (2 : Rat) ^ digits' := by positivity
    refine lt_of_mul_lt_mul_right ?_ power
    calc x * 2 ^ digits' ≤ x * x.den := by gcongr
      _ < 2 ^ (digits + 1) := value.trans_lt num_below
      _ = 2 ^ (digits - digits' + 1) * 2 ^ digits' := by
          rw [← zpow_add₀ (by norm_num)]
          congr 1
          omega

theorem binaryExponent_spec {x : Rat} (pos : 0 < x) :
    (2 : Rat) ^ binaryExponent x ≤ x ∧ x < (2 : Rat) ^ (binaryExponent x + 1) := by
  obtain ⟨above, below⟩ := log2_sub_bounds pos
  unfold binaryExponent
  dsimp only
  rw [Rat.abs_of_nonneg pos.le]
  split
  · rename_i less
    exact ⟨above.le, by rwa [Int.sub_add_cancel]⟩
  · rename_i notLess
    exact ⟨not_lt.mp notLess, below⟩

theorem step_pos (x : Rat) : 0 < (2 : Rat) ^ gridExponent x := by positivity

theorem le_gridExponent (x : Rat) : -1074 ≤ gridExponent x :=
  Int.le_max_left _ _

/-- A number is less than `2 ^ 53` multiples long. -/
theorem lt_grid {x : Rat} (pos : 0 < x) : x < 2 ^ 53 * (2 : Rat) ^ gridExponent x := by
  have finest : binaryExponent x + 1 ≤ 53 + gridExponent x := by
    have := Int.le_max_right (-1074) (binaryExponent x - 52)
    unfold gridExponent
    omega
  calc x < (2 : Rat) ^ (binaryExponent x + 1) := (binaryExponent_spec pos).2
    _ ≤ (2 : Rat) ^ (53 + gridExponent x) := zpow_le_zpow_right₀ (by norm_num) finest
    _ = 2 ^ 53 * (2 : Rat) ^ gridExponent x := by
        rw [zpow_add₀ (by norm_num)]
        norm_num

/-- Unless the multiples are the finest, a number is at least `2 ^ 52` of them long. -/
theorem grid_le {x : Rat} (pos : 0 < x) (coarse : -1074 < gridExponent x) :
    2 ^ 52 * (2 : Rat) ^ gridExponent x ≤ x := by
  have exact_grid : 52 + gridExponent x = binaryExponent x := by
    unfold gridExponent at coarse ⊢
    omega
  calc 2 ^ 52 * (2 : Rat) ^ gridExponent x = (2 : Rat) ^ (52 + gridExponent x) := by
        rw [zpow_add₀ (by norm_num)]
        norm_num
    _ ≤ x := by
        rw [exact_grid]
        exact (binaryExponent_spec pos).1

/-- A number that is less than `2 ^ 53` multiples long has no coarser ones. -/
theorem gridExponent_le {x : Rat} (pos : 0 < x) {grid : Int} (fine : -1074 ≤ grid)
    (short : x < 2 ^ 53 * (2 : Rat) ^ grid) : gridExponent x ≤ grid := by
  by_contra coarser
  have next : (2 : Rat) ^ (grid + 1) ≤ (2 : Rat) ^ gridExponent x :=
    zpow_le_zpow_right₀ (by norm_num) (by omega)
  rw [zpow_add_one₀ (by norm_num)] at next
  have long := grid_le pos (by omega)
  linarith

/-! ## The nearest number -/

/-- Rounding does not pass a multiple. -/
theorem nearest_le {x : Rat} {units : Int} (h : x ≤ units * (2 : Rat) ^ gridExponent x) :
    nearest x ≤ units * (2 : Rat) ^ gridExponent x := by
  have rounded := roundEven_mono ((div_le_iff₀ (step_pos x)).mpr h)
  rw [roundEven_intCast] at rounded
  exact mul_le_mul_of_nonneg_right (Int.cast_le.mpr rounded) (step_pos x).le

theorem le_nearest {x : Rat} {units : Int} (h : units * (2 : Rat) ^ gridExponent x ≤ x) :
    units * (2 : Rat) ^ gridExponent x ≤ nearest x := by
  have rounded := roundEven_mono ((le_div_iff₀ (step_pos x)).mpr h)
  rw [roundEven_intCast] at rounded
  exact mul_le_mul_of_nonneg_right (Int.cast_le.mpr rounded) (step_pos x).le

/-- Multiples stay as they are. -/
theorem nearest_of_grid {x : Rat} {units : Int} (h : x = units * (2 : Rat) ^ gridExponent x) :
    nearest x = x := by
  have above := nearest_le h.le
  have below := le_nearest h.ge
  rw [← h] at above below
  exact le_antisymm above below

/-- Rounding adds at most half a multiple. -/
theorem nearest_le_add (x : Rat) : nearest x ≤ x + (2 : Rat) ^ gridExponent x / 2 := by
  calc nearest x ≤ (x / (2 : Rat) ^ gridExponent x + 1 / 2) * (2 : Rat) ^ gridExponent x :=
        mul_le_mul_of_nonneg_right (roundEven_le _) (step_pos x).le
    _ = x + (2 : Rat) ^ gridExponent x / 2 := by
        rw [add_mul, div_mul_cancel₀ _ (step_pos x).ne']
        ring

theorem nearest_zero : nearest 0 = 0 := by
  have none : (0 : Rat) = ((0 : Int) : Rat) * (2 : Rat) ^ gridExponent 0 := by simp
  exact nearest_of_grid none

theorem nearest_mono {x y : Rat} (pos : 0 ≤ x) (h : x ≤ y) : nearest x ≤ nearest y := by
  rcases pos.eq_or_lt with rfl | pos
  · rw [nearest_zero]
    exact nearest_nonneg h
  · have pos' : 0 < y := pos.trans_le h
    have grids : gridExponent x ≤ gridExponent y :=
      gridExponent_le pos (le_gridExponent y) (h.trans_lt (lt_grid pos'))
    rcases grids.eq_or_lt with same | finer
    · unfold nearest
      rw [← same]
      have rounded := roundEven_mono (div_le_div_of_nonneg_right h (step_pos x).le)
      exact mul_le_mul_of_nonneg_right (Int.cast_le.mpr rounded) (step_pos x).le
    · -- Between the two lies the power of two from which on the multiples of `y` are used.
      have coarse : -1074 < gridExponent y := (le_gridExponent x).trans_lt finer
      calc nearest x ≤ ((2 ^ 53 : Int) : Rat) * (2 : Rat) ^ gridExponent x :=
            nearest_le (by exact_mod_cast (lt_grid pos).le)
        _ = ((2 ^ 52 : Int) : Rat) * (2 : Rat) ^ (gridExponent x + 1) := by
            rw [zpow_add_one₀ (by norm_num)]
            norm_num
            ring
        _ ≤ ((2 ^ 52 : Int) : Rat) * (2 : Rat) ^ gridExponent y := by
            gcongr
            · norm_num
            · exact finer
        _ ≤ nearest y := le_nearest (by exact_mod_cast grid_le pos' coarse)

/-! ## The numbers of the format -/

/-- Whether a number is less than `2 ^ 53` multiples of a power of two long, and of none that is
too small for the format. -/
def Representable (x : Rat) : Prop :=
  ∃ (units : Nat) (grid : Int), units < 2 ^ 53 ∧ -1074 ≤ grid ∧ x = units * (2 : Rat) ^ grid

theorem Representable.nonneg {x : Rat} (h : Representable x) : 0 ≤ x := by
  obtain ⟨units, grid, _, _, rfl⟩ := h
  positivity

theorem nearest_of_representable {x : Rat} (h : Representable x) : nearest x = x := by
  obtain ⟨units, grid, few, fine, value⟩ := h
  rcases Nat.eq_zero_or_pos units with rfl | some_units
  · rw [value]
    simpa using nearest_zero
  · have pos : 0 < x := by rw [value]; positivity
    have short : x < 2 ^ 53 * (2 : Rat) ^ grid := by
      rw [value]
      gcongr
      exact_mod_cast few
    obtain ⟨finer, same⟩ := Int.eq_ofNat_of_zero_le
      (Int.sub_nonneg_of_le (gridExponent_le pos fine short))
    have multiple : x = ((units * 2 ^ finer : Int) : Rat) * (2 : Rat) ^ gridExponent x := by
      calc x = units * (2 : Rat) ^ ((finer : Int) + gridExponent x) := by
            rw [← same, Int.sub_add_cancel, value]
        _ = ((units * 2 ^ finer : Int) : Rat) * (2 : Rat) ^ gridExponent x := by
            rw [zpow_add₀ (by norm_num), ← mul_assoc]
            push_cast
            rfl
    exact nearest_of_grid multiple

/-- Rounding does not pass a number of the format. -/
theorem Representable.nearest_le {x y : Rat} (h : Representable y) (pos : 0 ≤ x) (le : x ≤ y) :
    nearest x ≤ y :=
  (nearest_mono pos le).trans_eq (nearest_of_representable h)

theorem Representable.le_nearest {x y : Rat} (h : Representable x) (pos : 0 ≤ x) (le : x ≤ y) :
    x ≤ nearest y :=
  (nearest_of_representable h).ge.trans (nearest_mono pos le)

theorem representable_nearest {x : Rat} (pos : 0 ≤ x) : Representable (nearest x) := by
  rcases pos.eq_or_lt with rfl | pos
  · exact ⟨0, 0, by norm_num, by norm_num, by simp [nearest_zero]⟩
  · have few : roundEven (x / (2 : Rat) ^ gridExponent x) ≤ 2 ^ 53 := by
      have rounded := roundEven_mono ((div_lt_iff₀ (step_pos x)).mpr (lt_grid pos)).le
      rwa [show (2 ^ 53 : Rat) = ((2 ^ 53 : Int) : Rat) by norm_num, roundEven_intCast] at rounded
    have scaled : 0 ≤ x / (2 : Rat) ^ gridExponent x := div_nonneg pos.le (step_pos x).le
    obtain ⟨units, same⟩ := Int.eq_ofNat_of_zero_le (roundEven_nonneg scaled)
    rw [same] at few
    have value : nearest x = units * (2 : Rat) ^ gridExponent x := by
      rw [nearest, same, Int.cast_natCast]
    rcases Nat.lt_or_ge units (2 ^ 53) with fits | carried
    · exact ⟨units, _, fits, le_gridExponent x, value⟩
    · have full : units = 2 ^ 53 := by omega
      refine ⟨2 ^ 52, gridExponent x + 1, by norm_num, ?_, ?_⟩
      · have := le_gridExponent x
        omega
      · rw [value, full, zpow_add_one₀ (by norm_num)]
        norm_num
        ring

theorem representable_two_pow (n : Nat) : Representable (2 ^ n) :=
  ⟨1, n, by norm_num, by omega, by simp⟩

theorem representable_natCast {n : Nat} (small : n ≤ 2 ^ 53) : Representable n := by
  rcases small.lt_or_eq with less | rfl
  · exact ⟨n, 0, less, by norm_num, by simp⟩
  · exact_mod_cast representable_two_pow 53

theorem nearest_le_two_pow {x : Rat} {n : Nat} (pos : 0 ≤ x) (h : x ≤ 2 ^ n) :
    nearest x ≤ 2 ^ n :=
  (representable_two_pow n).nearest_le pos h

/-- What is less than the nearest number of another is at most that other, if it is a number of the
format. -/
theorem Representable.le_of_lt_nearest {x y : Rat} (h : Representable x) (pos : 0 ≤ y)
    (less : x < nearest y) : x ≤ y := by
  by_contra more
  exact absurd less (not_lt.mpr (h.nearest_le pos (not_le.mp more).le))

/-! ## Whole numbers -/

/-- Whole numbers are rounded to whole numbers. -/
theorem exists_nearest_intCast {n : Int} (pos : 0 ≤ n) : ∃ m : Nat, nearest n = m := by
  rcases lt_or_ge n (2 ^ 53) with small | large
  · obtain ⟨m, rfl⟩ := Int.eq_ofNat_of_zero_le pos
    have small : m ≤ 2 ^ 53 := by exact_mod_cast small.le
    exact ⟨m, nearest_of_representable (representable_natCast small)⟩
  · have positive : (0 : Rat) < n := Int.cast_pos.mpr (by omega)
    have whole : 0 ≤ gridExponent n := by
      by_contra finer
      have step : (2 : Rat) ^ gridExponent n ≤ 1 :=
        zpow_le_one_of_nonpos₀ (by norm_num) (by omega)
      have short := lt_grid positive
      have large : (2 ^ 53 : Rat) ≤ n := by exact_mod_cast large
      linarith
    obtain ⟨grid, same⟩ := Int.eq_ofNat_of_zero_le whole
    have scaled : 0 ≤ (n : Rat) / (2 : Rat) ^ gridExponent n := by positivity
    obtain ⟨units, rounded⟩ := Int.eq_ofNat_of_zero_le (roundEven_nonneg scaled)
    refine ⟨units * 2 ^ grid, ?_⟩
    rw [nearest, rounded, same]
    push_cast
    rfl

/-- Below `2 ^ (53 + grid)` rounding adds at most half of `2 ^ grid`. -/
theorem nearest_intCast_le {n : Int} (pos : 0 ≤ n) (grid : Nat) (short : n < 2 ^ (53 + grid)) :
    nearest n ≤ n + 2 ^ grid / 2 := by
  rcases pos.eq_or_lt with rfl | pos
  · rw [Int.cast_zero, nearest_zero]
    positivity
  · have short : (n : Rat) < 2 ^ 53 * (2 : Rat) ^ (grid : Int) := by
      rw [zpow_natCast, ← pow_add]
      exact_mod_cast short
    have finer : (2 : Rat) ^ gridExponent n ≤ 2 ^ (grid : Int) :=
      zpow_le_zpow_right₀ (by norm_num) (gridExponent_le (Int.cast_pos.mpr pos) (by omega) short)
    have added := nearest_le_add n
    rw [zpow_natCast] at finer
    linarith

theorem Representable.half {m : Nat} (h : Representable m) : Representable (m / 2) := by
  obtain ⟨units, grid, few, fine, value⟩ := h
  rcases fine.lt_or_eq with coarse | finest
  · refine ⟨units, grid - 1, few, by omega, ?_⟩
    rw [value, zpow_sub_one₀ (by norm_num)]
    ring
  · have less : (m : Rat) < 1 := by
      calc (m : Rat) = units * (2 : Rat) ^ (-1074 : Int) := by rw [value, finest]
        _ < 2 ^ 53 * (2 : Rat) ^ (-1074 : Int) := by
            gcongr
            exact_mod_cast few
        _ = (2 : Rat) ^ (-1021 : Int) := by
            rw [show (-1021 : Int) = 53 + -1074 by norm_num, zpow_add₀ (by norm_num)]
            norm_num
        _ ≤ 1 := zpow_le_one_of_nonpos₀ (by norm_num) (by norm_num)
    have none : m = 0 := by
      have : m < 1 := by exact_mod_cast less
      omega
    exact ⟨0, 0, by norm_num, by norm_num, by simp [none]⟩

theorem Representable.double {x : Rat} (h : Representable x) : Representable (2 * x) := by
  obtain ⟨units, grid, few, fine, value⟩ := h
  refine ⟨units, grid + 1, few, by omega, ?_⟩
  rw [value, zpow_add_one₀ (by norm_num)]
  ring

/-- From `2 ^ 52` on the format has whole numbers only. -/
theorem Representable.exists_intCast {x : Rat} (h : Representable x) (large : 2 ^ 52 ≤ x) :
    ∃ n : Int, x = n := by
  obtain ⟨units, grid, few, _, value⟩ := h
  have whole : 0 ≤ grid := by
    by_contra fraction
    have step : (2 : Rat) ^ grid ≤ 2 ^ (-1 : Int) := zpow_le_zpow_right₀ (by norm_num) (by omega)
    have short : (units : Rat) < 2 ^ 53 := by exact_mod_cast few
    have less : x < 2 ^ 53 * 2 ^ (-1 : Int) := by
      rw [value]
      exact mul_lt_mul short step (by positivity) (by norm_num)
    norm_num at less
    linarith
  obtain ⟨digits, rfl⟩ := Int.eq_ofNat_of_zero_le whole
  exact ⟨units * 2 ^ digits, by rw [value]; push_cast; rfl⟩

/-- An eighth of a whole number is exact. -/
theorem Representable.eighth {n : Nat} (few : n < 2 ^ 53) : Representable (n / 8) :=
  ⟨n, -3, few, by norm_num, by norm_num [div_eq_mul_inv]⟩

theorem nearest_half : nearest (1 / 2) = 1 / 2 := by
  have half : Representable ((1 : Nat) / 2) := (representable_natCast (by norm_num)).half
  exact_mod_cast nearest_of_representable half

theorem half_le_nearest {x : Rat} (half_le : 1 / 2 ≤ x) : 1 / 2 ≤ nearest x :=
  nearest_half.ge.trans (nearest_mono (by norm_num) half_le)

theorem nearest_two : nearest 2 = 2 := by
  have two : Representable ((2 : Nat) : Rat) := representable_natCast (by norm_num)
  exact_mod_cast nearest_of_representable two

theorem one_le_nearest {x : Rat} (one_le : 1 ≤ x) : 1 ≤ nearest x := by
  have one : Representable ((1 : Nat) : Rat) := representable_natCast (by norm_num)
  exact_mod_cast one.le_nearest (by norm_num) (by exact_mod_cast one_le)

/-! ## The format's range -/

/-- Far below the largest number of the format, nothing is rounded to an infinity. -/
theorem ofRat_eq_finite {x : Rat} (pos : 0 ≤ x) (small : x ≤ 2 ^ 128) :
    ofRat x = .finite (nearest x) := by
  have less : nearest x < (2 : Rat) ^ 1024 :=
    (nearest_le_two_pow pos small).trans_lt (pow_lt_pow_right₀ (by norm_num) (by norm_num))
  unfold ofRat
  dsimp only
  rw [Rat.abs_of_nonneg (nearest_nonneg pos), if_pos less]

theorem ofInt_natCast {n : Nat} (small : n ≤ 2 ^ 53) : ofInt n = .finite n := by
  have bound : (n : Rat) ≤ 2 ^ 128 := by
    have : n ≤ 2 ^ 128 := small.trans (by norm_num)
    exact_mod_cast this
  rw [ofInt, Int.cast_natCast, ofRat_eq_finite (Nat.cast_nonneg n) bound,
    nearest_of_representable (representable_natCast small)]

theorem finite_div {x y : Rat} (nonzero : y ≠ 0) : finite x / finite y = ofRat (x / y) :=
  if_neg nonzero

end Binary64

/-! ## Counts of milliseconds -/

namespace Millis

open Binary64

/-- A count that is not negative is rounded to a number of the format. -/
theorem toBinary64_eq {m : Millis} (pos : 0 ≤ m.count) :
    m.toBinary64 = .finite (nearest m.count) := by
  have small : m.count ≤ 2 ^ 128 := by
    have := m.upper
    omega
  exact ofRat_eq_finite (Int.cast_nonneg pos) (by exact_mod_cast small)

theorem nearest_count_le {m : Millis} (pos : 0 ≤ m.count) : nearest m.count ≤ 2 ^ 63 := by
  have upper : m.count ≤ 2 ^ 63 := by
    have := m.upper
    omega
  exact nearest_le_two_pow (Int.cast_nonneg pos) (by exact_mod_cast upper)

theorem one_le_nearest_count {m : Millis} (pos : 0 < m.count) : 1 ≤ nearest m.count :=
  one_le_nearest (by exact_mod_cast pos)

/-- A whole number is cut off only at the ends of the range. -/
theorem ofBinary64_eq_saturate (n : Int) : ofBinary64 (.finite n) = saturate n := by
  rw [ofBinary64, truncate]
  split
  · rw [Rat.floor_intCast]
  · rw [Rat.ceil_intCast]

/-- A whole number within the range is kept. -/
theorem ofBinary64_intCast {n : Int} (low : -2 ^ 63 ≤ n) (high : n < 2 ^ 63) :
    (ofBinary64 (.finite n)).count = n := by
  rw [ofBinary64_eq_saturate]
  exact saturate_of_inRange (by omega) (by omega)

/-- A length that is at most doubled is a number of the format. -/
theorem toBinary64_mul {m : Millis} (m_pos : 0 ≤ m.count) {factor : Rat} (factor_pos : 0 ≤ factor)
    (factor_le : factor ≤ 2) :
    m.toBinary64 * .ofRat factor = .finite (nearest (nearest m.count * nearest factor)) := by
  have length_pos : 0 ≤ nearest m.count := nearest_nonneg (Int.cast_nonneg m_pos)
  have length_le := nearest_count_le m_pos
  have scale_pos : 0 ≤ nearest factor := nearest_nonneg factor_pos
  have scale_le : nearest factor ≤ 2 ^ 1 :=
    nearest_le_two_pow factor_pos (factor_le.trans (by norm_num))
  have product_le : nearest m.count * nearest factor ≤ 2 ^ 128 :=
    calc nearest m.count * nearest factor ≤ 2 ^ 63 * 2 ^ 1 :=
          mul_le_mul length_le scale_le scale_pos (by norm_num)
      _ ≤ 2 ^ 128 := by norm_num
  rw [toBinary64_eq m_pos, ofRat_eq_finite factor_pos (factor_le.trans (by norm_num))]
  exact ofRat_eq_finite (mul_nonneg length_pos scale_pos) product_le

end Millis

end HouseholdDashboard
