import HouseholdDashboard.Proofs.Chart.Extent
import HouseholdDashboard.Proofs.Chart.Lowest
import HouseholdDashboard.Proofs.Chart.Viewport
import HouseholdDashboard.Proofs.Number.Rounding

/-!
# Far from the ends of the range

The calendar of the instants ends long before 64 bits do.  The extent of times on it is in reach
(`Extent.ofTimes_inReach`): whatever is added to or taken from the edges of such a window, be it
the window's length or the interval between its ticks, saturates nowhere.
-/

namespace HouseholdDashboard

open Binary64 (nearest nearest_nonneg nearest_mono nearest_half nearest_le_two_pow)

/-- Milliseconds on the calendar are exact as binary64 numbers. -/
theorem Instant.toMillis_bounds (t : Instant) :
    -2 ^ 53 ≤ t.toMillis.count ∧ t.toMillis.count ≤ 2 ^ 53 := by
  have := t.first_le
  have := t.le_last
  have := t.nanos_lt
  simp only [toMillis]
  omega

theorem Millis.exists_ofInt? {n : Int} (low : -2 ^ 63 ≤ n) (high : n < 2 ^ 63) :
    ∃ m, ofInt? n = some m ∧ m.count = n := by
  have inRange : -9223372036854775808 ≤ n ∧ n ≤ 9223372036854775807 := by omega
  exact ⟨⟨n, inRange.1, inRange.2⟩, by rw [ofInt?, dif_pos inRange], rfl⟩

theorem Binary64.max_intCast (a b : Int) :
    (finite a).max (finite b) = .finite (Max.max a b : Int) := by
  rcases Int.lt_or_le a b with less | ge
  · simp [Binary64.max, lt, less, Int.max_eq_right (Int.le_of_lt less)]
  · simp [Binary64.max, lt, Int.not_lt.mpr ge, Int.max_eq_left ge]

/-! ## Windows -/

/-- Whether the edges of a window are far from the ends of the range. -/
structure Window.InReach (w : Window) : Prop where
  start : -2 ^ 54 ≤ w.start.count
  stop : w.stop.count ≤ 2 ^ 54

namespace Window.Within

variable {inner outer : Window} (within : inner.Within outer)
include within

theorem inReach (reach : outer.InReach) : inner.InReach :=
  ⟨Int.le_trans reach.start (Millis.le_iff.mp within.1),
    Int.le_trans (Millis.le_iff.mp within.2) reach.stop⟩

theorem width_le : inner.width.count ≤ outer.width.count := by
  obtain ⟨starts, stops⟩ := within
  rw [Millis.le_iff] at starts stops
  simp only [width, Millis.subSaturating, Millis.saturate]
  omega

end Window.Within

namespace Window.InReach

variable {w : Window} (reach : w.InReach)
include reach

/-- The length of a window in reach is not cut off. -/
theorem edges : -2 ^ 54 ≤ w.start.count ∧ w.start.count ≤ w.stop.count ∧ w.stop.count ≤ 2 ^ 54 ∧
    w.width.count = w.stop.count - w.start.count := by
  obtain ⟨first, last⟩ := reach
  have ordered := Millis.le_iff.mp w.start_le_stop
  exact ⟨first, ordered, last, Millis.saturate_of_inRange (by omega) (by omega)⟩

/-- The number that is nearest to a length is not much longer. -/
theorem nearest_width_le : nearest w.width.count ≤ 2 ^ 55 := by
  have short : w.width.count ≤ 2 ^ 55 := by
    obtain ⟨first, ordered, last, width⟩ := reach.edges
    omega
  exact nearest_le_two_pow (Int.cast_nonneg w.width_nonneg) (by exact_mod_cast short)

end Window.InReach

/-! ## The extent -/

namespace Extent

/-- A fold that picks one of two times picks one of those that it folds. -/
theorem foldl_mem {pick : Millis → Millis → Millis} (picks : ∀ a b, pick a b = a ∨ pick a b = b)
    (first : Millis) (rest : List Millis) : rest.foldl pick first ∈ first :: rest := by
  induction rest generalizing first with
  | nil => exact List.mem_cons_self
  | cons next rest ih =>
    rw [List.foldl_cons]
    rcases List.mem_cons.mp (ih (pick first next)) with same | later
    · rw [same]
      rcases picks first next with one | other
      · rw [one]; exact List.mem_cons_self
      · rw [other]; exact List.mem_cons_of_mem _ List.mem_cons_self
    · exact List.mem_cons_of_mem _ (List.mem_cons_of_mem _ later)

theorem min_eq_or (a b : Millis) : min a b = a ∨ min a b = b := by
  simp only [Min.min]
  split
  · exact .inl rfl
  · exact .inr rfl

theorem max_eq_or (a b : Millis) : max a b = a ∨ max a b = b := by
  simp only [Max.max]
  split
  · exact .inr rfl
  · exact .inl rfl

/-- What is put on either side is a twentieth of the span, twice rounded to binary64 and then up to
a whole number. -/
theorem toBinary64_mul_margin {span : Millis} (pos : 0 ≤ span.count) :
    (span.toBinary64 * margin).ceil.max (.finite 1) =
      .finite (max (nearest (nearest span.count * nearest (5 / 100))).ceil 1 : Int) := by
  have scaled : span.toBinary64 * margin = .finite (nearest _) :=
    Millis.toBinary64_mul pos (by norm_num) (by norm_num)
  rw [scaled, Binary64.ceil, ← Int.cast_one, Binary64.max_intCast]

theorem padding_eq {span : Millis} (pos : 0 ≤ span.count) :
    padding span =
      .saturate (max (nearest (nearest span.count * nearest (5 / 100))).ceil 1) := by
  rw [padding, toBinary64_mul_margin pos, Millis.ofBinary64_eq_saturate]

/-- The padding is at most half of the span. -/
theorem padding_le {span : Millis} (pos : 0 ≤ span.count) {n : Nat} (fits : n < 63)
    (short : span.count ≤ 2 ^ (n + 1)) : (padding span).count ≤ 2 ^ n := by
  have length_pos : 0 ≤ nearest span.count := nearest_nonneg (Int.cast_nonneg pos)
  have length_le : nearest span.count ≤ 2 ^ (n + 1) :=
    nearest_le_two_pow (Int.cast_nonneg pos) (by exact_mod_cast short)
  have part_pos : 0 ≤ nearest (5 / 100) := nearest_nonneg (by norm_num)
  have part_le : nearest (5 / 100) ≤ 1 / 2 :=
    (nearest_mono (by norm_num) (by norm_num)).trans_eq nearest_half
  have product_pos : 0 ≤ nearest span.count * nearest (5 / 100) := mul_nonneg length_pos part_pos
  have product_le : nearest span.count * nearest (5 / 100) ≤ 2 ^ n := by
    calc nearest span.count * nearest (5 / 100) ≤ 2 ^ (n + 1) * (1 / 2) :=
          mul_le_mul length_le part_le part_pos (by positivity)
      _ = 2 ^ n := by rw [pow_succ, mul_assoc, mul_one_div_cancel two_ne_zero, mul_one]
  have part_le_pow := nearest_le_two_pow product_pos product_le
  have bound : (nearest (nearest span.count * nearest (5 / 100))).ceil ≤ 2 ^ n :=
    Rat.ceil_le_iff.mpr (by exact_mod_cast part_le_pow)
  have one_le : (1 : Int) ≤ 2 ^ n := one_le_pow₀ (by norm_num)
  have power : (2 : Int) ^ n < 2 ^ 63 := pow_lt_pow_right₀ (by norm_num) fits
  rw [padding_eq pos]
  simp only [Millis.saturate]
  omega

theorem spanning_inReach {a b : Millis} (a_near : -2 ^ 54 ≤ a.count ∧ a.count ≤ 2 ^ 54)
    (b_near : -2 ^ 54 ≤ b.count ∧ b.count ≤ 2 ^ 54) : (Window.spanning a b).InReach := by
  unfold Window.spanning
  split
  · exact ⟨a_near.1, b_near.2⟩
  · exact ⟨b_near.1, a_near.2⟩

/-- The extent of times on the calendar is in reach, whatever is put on either side of them. -/
theorem ofTimes_inReach {marks samples : List Millis} {now : Millis}
    (near : ∀ t ∈ now :: (marks ++ samples), -2 ^ 53 ≤ t.count ∧ t.count ≤ 2 ^ 53) :
    (ofTimes marks samples now).InReach := by
  obtain ⟨now_near, near⟩ := List.forall_mem_cons.mp near
  unfold ofTimes
  cases times : marks ++ samples with
  | nil =>
    refine spanning_inReach ?_ (by omega)
    simp only [Millis.subSaturating, Millis.saturate, day]
    omega
  | cons first rest =>
    rw [times] at near
    have low_near := near _ (foldl_mem min_eq_or first rest)
    have high_near := near _ (foldl_mem max_eq_or first rest)
    have ordered : rest.foldl min first ≤ rest.foldl max first :=
      foldl_min_le (foldl_mem max_eq_or first rest)
    dsimp only
    generalize rest.foldl min first = low at low_near ordered
    generalize rest.foldl max first = high at high_near ordered
    rw [Millis.le_iff] at ordered
    have span : (high.subSaturating low).count = high.count - low.count :=
      Millis.saturate_of_inRange (by omega) (by omega)
    have pad_pos := one_le_padding (high.subSaturating low)
    have pad_le : (padding (high.subSaturating low)).count ≤ 2 ^ 53 :=
      padding_le (by omega) (by norm_num) (by omega)
    generalize padding (high.subSaturating low) = pad at pad_pos pad_le
    simp only [Millis.subSaturating, Millis.addSaturating, Millis.saturate]
    refine spanning_inReach ?_ ?_ <;> dsimp only <;> omega

end Extent

/-! ## Ticks -/

theorem Tick.exists_ofWindow (zone : Zone) {w : Window} (reach : w.InReach) :
    ∃ ticks, ofWindow zone w = .ok ticks := by
  have far : Ticks.lowest (24 * Ticks.hour) ≤ -2 ^ 54 := by decide
  exact exists_ofWindow_of_lowest zone (Int.le_trans far reach.start)

end HouseholdDashboard
