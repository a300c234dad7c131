import HouseholdDashboard.Proofs.Chart.Ticks
import HouseholdDashboard.Proofs.Number.Rounding

/-!
# Which interval is chosen

The interval is chosen by comparing binary64 numbers: an eighth of the window's length with each of
the intervals.  A length that is not a multiple of eight, or that has more than 53 bits, is rounded
before it is compared, but never past a bound: eight intervals are a number of the format, and so is
one millisecond more (`Millis.eighth_le_iff`).  So the choice is the one that whole numbers make
(`suits_interval`).

Neighbouring intervals are at most five times as long as each other, which is less than eight.  So
an interval that had to be chosen because the one before it was too short fits into the window
(`interval_le_width`), and there is a tick; and there are at most nine.
-/

namespace HouseholdDashboard

open Binary64 (nearest nearest_nonneg Representable representable_natCast)

/-! ## An eighth of a length -/

/-- Eight steps are a number of the format, and so is one millisecond more; rounding a length passes
neither, nor does rounding its eighth. -/
theorem Binary64.nearest_eighth_le_iff {length : Int} (pos : 0 ≤ length) {n : Nat}
    (small : 8 * n + 1 < 2 ^ 53) : nearest (nearest length / 8) ≤ n ↔ length ≤ 8 * n := by
  have length_pos : (0 : Rat) ≤ length := Int.cast_nonneg pos
  have eighth_pos : 0 ≤ nearest length / 8 :=
    div_nonneg (nearest_nonneg length_pos) (by norm_num)
  constructor
  · intro fits
    by_contra longer
    have next : ((8 * n + 1 : Nat) : Rat) ≤ length := by exact_mod_cast Int.not_le.mp longer
    have rounded := (representable_natCast small.le).le_nearest (Nat.cast_nonneg _) next
    have eighth : ((8 * n + 1 : Nat) : Rat) / 8 ≤ nearest (nearest length / 8) :=
      (Representable.eighth small).le_nearest (by positivity) (by linarith)
    push_cast at eighth
    linarith
  · intro fits
    have rounded : nearest length ≤ ((8 * n : Nat) : Rat) :=
      (representable_natCast (by omega)).nearest_le length_pos (by exact_mod_cast fits)
    refine (representable_natCast (by omega)).nearest_le eighth_pos ?_
    push_cast at rounded
    linarith

theorem Millis.eighth_le_iff {m : Millis} (pos : 0 ≤ m.count) {i : Int} (i_pos : 0 ≤ i)
    (small : 8 * i + 1 < 2 ^ 53) :
    (m.toBinary64 / .ofInt 8).le (.ofInt i) = true ↔ m.count ≤ 8 * i := by
  obtain ⟨n, rfl⟩ := Int.eq_ofNat_of_zero_le i_pos
  have length_pos : 0 ≤ nearest m.count := nearest_nonneg (Int.cast_nonneg pos)
  have length_le := nearest_count_le pos
  have eight : Binary64.ofInt 8 = .finite 8 := Binary64.ofInt_natCast (n := 8) (by norm_num)
  have quotient : m.toBinary64 / .ofInt 8 = .finite (nearest (nearest m.count / 8)) := by
    rw [toBinary64_eq pos, eight, Binary64.finite_div (by norm_num)]
    exact Binary64.ofRat_eq_finite (by linarith) (by linarith)
  rw [quotient, Binary64.ofInt_natCast (by omega), Binary64.le, decide_eq_true_iff]
  exact Binary64.nearest_eighth_le_iff pos (by omega)

namespace Ticks

/-! ## The choice -/

/-- Which step belongs to a length: the least of the intervals that leaves at most eight steps in
it, or a day if even a day leaves more. -/
inductive Suits (length : Int) : Int → Prop
  | least {step : Int} (mem : step ∈ intervals) (covers : length ≤ 8 * step)
    (least : ∀ i ∈ intervals, length ≤ 8 * i → step ≤ i) : Suits length step
  | day (none : ∀ i ∈ intervals, 8 * i < length) : Suits length (24 * hour)

/-- One step at most belongs to a length. -/
theorem Suits.unique {length step step' : Int} (suits : Suits length step)
    (suits' : Suits length step') : step = step' := by
  cases suits with
  | least mem covers least =>
    cases suits' with
    | least mem' covers' least' =>
      exact Int.le_antisymm (least _ mem' covers') (least' _ mem covers)
    | day none => exact absurd covers (Int.not_le.mpr (none _ mem))
  | day none =>
    cases suits' with
    | least mem' covers' _ => exact absurd covers' (Int.not_le.mpr (none _ mem'))
    | day _ => rfl

/-- What is found first in an ascending list is the least that could be found. -/
theorem le_of_find? {p : Int → Bool} {xs : List Int} {found other : Int}
    (ascending : xs.Pairwise (· < ·)) (first : xs.find? p = some found) (mem : other ∈ xs)
    (passes : p other = true) : found ≤ other := by
  induction xs with
  | nil => cases mem
  | cons x xs ih =>
    rw [List.pairwise_cons] at ascending
    by_cases at_x : p x = true
    · rw [List.find?_cons_of_pos at_x] at first
      cases first
      rcases List.mem_cons.mp mem with rfl | later
      · exact Int.le_refl _
      · exact Int.le_of_lt (ascending.1 other later)
    · rw [List.find?_cons_of_neg at_x] at first
      rcases List.mem_cons.mp mem with rfl | later
      · exact absurd passes at_x
      · exact ih ascending.2 first later

theorem suits_interval (w : Window) : Suits w.width.count (interval w) := by
  have covers_iff : ∀ i ∈ intervals, (w.width.toBinary64 / .ofInt 8).le (.ofInt i) = true ↔
      w.width.count ≤ 8 * i := by
    intro i mem
    have bounds : ∀ i ∈ intervals, 0 ≤ i ∧ 8 * i + 1 < 2 ^ 53 := by decide
    exact Millis.eighth_le_iff w.width_nonneg (bounds i mem).1 (bounds i mem).2
  have ascending : intervals.Pairwise (· < ·) := by decide
  unfold interval
  dsimp only
  cases found : intervals.find? _ with
  | none =>
    refine .day fun i mem => ?_
    have misses := List.find?_eq_none.mp found i mem
    rw [covers_iff i mem] at misses
    exact Int.not_le.mp misses
  | some step =>
    have mem := List.mem_of_find?_eq_some found
    have covers := List.find?_some found
    refine .least mem ((covers_iff step mem).mp covers) fun i mem' covers' => ?_
    exact le_of_find? ascending found mem' ((covers_iff i mem').mpr covers')

/-! ## How many ticks there are -/

section Window

variable {w : Window}

/-- In a window of a minute or more there is room for the interval that is chosen. -/
theorem interval_le_width (wide : minute ≤ w.width.count) : interval w ≤ w.width.count := by
  have near : ∀ i ∈ intervals, i = minute ∨ ∃ j ∈ intervals, j < i ∧ i ≤ 5 * j := by decide
  have positive : ∀ i ∈ intervals, 0 < i := by decide
  have suits := suits_interval w
  generalize interval w = step at suits
  cases suits with
  | least mem covers least =>
    rcases near step mem with rfl | ⟨shorter, mem', less, close⟩
    · exact wide
    · by_contra narrow
      have enough : w.width.count ≤ 8 * shorter := by
        have := positive shorter mem'
        omega
      have := least shorter mem' enough
      omega
  | day none =>
    have := none (12 * hour) (by decide)
    simp only [hour, minute] at this ⊢
    omega

/-- Up to eight days a window has at most eight intervals. -/
theorem width_le_interval (short : w.width.count ≤ 192 * hour) :
    w.width.count ≤ 8 * interval w := by
  have suits := suits_interval w
  generalize interval w = step at suits
  cases suits with
  | least mem covers least => exact covers
  | day none =>
    have := none (24 * hour) (by decide)
    omega

theorem width_eq_of_short (short : w.width.count ≤ 192 * hour) :
    w.width.count = w.stop.count - w.start.count := by
  have ordered := Millis.le_iff.mp w.start_le_stop
  simp only [Window.width, Millis.subSaturating, Millis.saturate, hour, minute] at short ⊢
  omega

/-- A window has a multiple of each step for which it has room. -/
theorem exists_multiple {step : Int} (step_pos : 0 < step)
    (room : step ≤ w.stop.count - w.start.count) : ∃ t : Millis, w.start ≤ t ∧ step ∣ t.count := by
  have divided := Int.mul_ediv_add_emod (w.start.count + step - 1) step
  have least := Int.emod_nonneg (w.start.count + step - 1) step_pos.ne'
  have less := Int.emod_lt_of_pos (w.start.count + step - 1) step_pos
  have lower := w.start.lower
  have upper := w.stop.upper
  have multiple := Int.dvd_mul_right step ((w.start.count + step - 1) / step)
  generalize step * ((w.start.count + step - 1) / step) = reached at divided multiple
  exact ⟨⟨reached, by omega, by omega⟩, Millis.le_iff.mpr (by dsimp only; omega), multiple⟩

/-- The interval is chosen by the exact length of the window, however long it is.  A window from a
minute up to eight days, if it has ticks at all, has at least one and at most nine. -/
theorem chosen_by_exact_length (w : Window) :
    (∀ step, Suits w.width.count step ↔ step = interval w) ∧
    ∀ ts, minute ≤ w.width.count → w.width.count ≤ 192 * hour → ofWindow w = .ok ts →
      1 ≤ ts.length ∧ ts.length ≤ 9 := by
  refine ⟨fun step => ⟨fun suits => suits.unique (suits_interval w), ?_⟩, ?_⟩
  · rintro rfl
    exact suits_interval w
  · intro ts wide short drawn
    have step_pos := interval_pos w
    have length := width_eq_of_short short
    have room := interval_le_width wide
    have steps := width_le_interval short
    rcases ofWindow_cases w with ⟨-, failed⟩ | ⟨-, climbed⟩
    · rw [failed] at drawn
      cases drawn
    · rcases climbed with ⟨first, from_start, near, -, climbed⟩ | ⟨none, -⟩
      · rw [climbed] at drawn
        cases drawn
        rw [Millis.le_iff] at from_start
        have some_left : 0 ≤ (w.stop.count - first.count) / interval w :=
          Int.ediv_nonneg (by omega) step_pos.le
        have few_left : (w.stop.count - first.count) / interval w < 9 :=
          Int.ediv_lt_of_lt_mul step_pos (by omega)
        rw [length_climb]
        omega
      · obtain ⟨t, from_start, multiple⟩ := exists_multiple (w := w) step_pos (by omega)
        exact absurd multiple (none t from_start)

/-- A window one millisecond longer than eight half hours, from just before the start of 1970. -/
def pastEightHalves : Window :=
  ⟨⟨-1, by decide, by decide⟩, ⟨14400000, by decide, by decide⟩, by decide⟩

/-- It gets an hour as interval, and the five ticks that are then left. -/
theorem chosen_by_exact_length_pastEightHalves :
    pastEightHalves.width.count = 8 * (30 * minute) + 1 ∧ hour = interval pastEightHalves ∧
      ∃ ts, ofWindow pastEightHalves = .ok ts ∧ ts.length = 5 ∧ 1 ≤ ts.length ∧ ts.length ≤ 9 := by
  have exact_length := chosen_by_exact_length pastEightHalves
  have suits : Suits pastEightHalves.width.count hour :=
    .least (by decide) (by decide) (by decide)
  have drawn : ofWindow pastEightHalves = .ok [.zero, ⟨3600000, by decide, by decide⟩,
      ⟨7200000, by decide, by decide⟩, ⟨10800000, by decide, by decide⟩,
      ⟨14400000, by decide, by decide⟩] := by decide +kernel
  exact ⟨by decide, (exact_length.1 hour).mp suits, _, drawn, rfl,
    exact_length.2 _ (by decide) (by decide) drawn⟩

end Window

end Ticks

end HouseholdDashboard
