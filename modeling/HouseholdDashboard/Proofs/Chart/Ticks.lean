import HouseholdDashboard.Chart.Ticks
import Mathlib.Data.List.Chain

/-!
# Where the ticks stand

Ticks are found by climbing: from the first multiple of the interval that is not before the window,
one interval at a time, up to the end of the window or to the end of the range.  The climb meets
every multiple on its way and nothing else (`mem_climb`), and it is over after as many steps as
there are intervals left (`length_climb`).  So the ticks of a window are the multiples in it, both
edges included (`stand_at_multiples`).
-/

namespace HouseholdDashboard

/-- A sum that has no place in the range is beyond its end, if something was added. -/
theorem Millis.lt_add_of_add?_eq_none {m : Millis} {n : Int} (none : m.add? n = none)
    (pos : 0 < n) : 9223372036854775807 < m.count + n := by
  unfold add? ofInt? at none
  split at none
  · cases none
  · have := m.lower
    omega

namespace Ticks

/-! ## Climbing -/

section Climb

variable {step : Int} {step_pos : 0 < step} {stop t next u : Millis}

/-- Between a time and its next step there is no other one at a whole number of steps. -/
theorem eq_or_add_le (from_t : t ≤ u) (whole : step ∣ u.count - t.count) :
    u = t ∨ t.count + step ≤ u.count := by
  rw [Millis.le_iff] at from_t
  rcases Int.lt_or_eq_of_le from_t with later | same
  · have := Int.le_of_dvd (by omega) whole
    exact .inr (by omega)
  · exact .inl (Millis.ext same.symm)

/-- After a multiple that has no next one in the range there is no other multiple. -/
theorem not_dvd_of_top (step_pos : 0 < step) (multiple : step ∣ t.count) (top : t.add? step = none)
    (after : t < u) : ¬ step ∣ u.count := by
  intro whole
  have beyond := Millis.lt_add_of_add?_eq_none top step_pos
  have := u.upper
  rcases eq_or_add_le (Int.le_of_lt after) (Int.dvd_sub whole multiple) with rfl | above
  · exact Int.lt_irrefl _ after
  · omega

theorem mem_climb :
    u ∈ climb step step_pos stop t ↔ t ≤ u ∧ u ≤ stop ∧ step ∣ u.count - t.count := by
  fun_induction climb step step_pos stop t with
  | case1 t le ih =>
    have self : t ≤ t ∧ t ≤ stop ∧ step ∣ t.count - t.count :=
      ⟨Int.le_refl _, le, Int.sub_self _ ▸ Int.dvd_zero step⟩
    cases up : t.add? step with
    | none =>
      simp only [List.mem_singleton]
      refine ⟨fun same => same ▸ self, fun ⟨from_t, to_stop, whole⟩ => ?_⟩
      rcases eq_or_add_le from_t whole with same | later
      · exact same
      · have := Millis.lt_add_of_add?_eq_none up step_pos
        have := u.upper
        omega
    | some next =>
      have sum : next.count = t.count + step := Millis.ofInt?_eq_some_iff.mp up
      simp only [List.mem_cons, ih next up]
      constructor
      · rintro (rfl | ⟨from_next, to_stop, whole⟩)
        · exact self
        · rw [Millis.le_iff] at from_next
          refine ⟨Millis.le_iff.mpr (by omega), to_stop, ?_⟩
          have : u.count - t.count = (u.count - next.count) + step := by omega
          rw [this]
          exact Int.dvd_add whole (Int.dvd_refl step)
      · rintro ⟨from_t, to_stop, whole⟩
        rcases eq_or_add_le from_t whole with same | later
        · exact .inl same
        · refine .inr ⟨Millis.le_iff.mpr (by omega), to_stop, ?_⟩
          have : u.count - next.count = (u.count - t.count) - step := by omega
          rw [this]
          exact Int.dvd_sub whole (Int.dvd_refl step)
  | case2 t beyond =>
    simp only [List.not_mem_nil, false_iff]
    rintro ⟨from_t, to_stop, -⟩
    exact beyond (Int.le_trans from_t to_stop)

theorem eq_of_head?_climb (first : (climb step step_pos stop t).head? = some u) : u = t := by
  rw [climb] at first
  split at first
  · exact (Option.some.inj first).symm
  · cases first

theorem isChain_climb :
    (climb step step_pos stop t).IsChain fun a b => b.count = a.count + step := by
  fun_induction climb step step_pos stop t with
  | case1 t le ih =>
    cases up : t.add? step with
    | none => exact .singleton t
    | some next =>
      refine List.isChain_cons.mpr ⟨fun second at_head => ?_, ih next up⟩
      have same : second = next := eq_of_head?_climb at_head
      rw [same]
      exact Millis.ofInt?_eq_some_iff.mp up
  | case2 t beyond => exact .nil

theorem pairwise_climb : (climb step step_pos stop t).Pairwise (· < ·) := by
  fun_induction climb step step_pos stop t with
  | case1 t le ih =>
    cases up : t.add? step with
    | none => exact List.pairwise_singleton _ t
    | some next =>
      refine List.pairwise_cons.mpr ⟨fun later above => ?_, ih next up⟩
      have from_next := Millis.le_iff.mp (mem_climb.mp above).1
      have sum : next.count = t.count + step := Millis.ofInt?_eq_some_iff.mp up
      exact Millis.lt_iff.mpr (by omega)
  | case2 t beyond => exact .nil

/-- The climb is over after as many steps as there are left, and at once beyond the last time. -/
theorem length_climb :
    (climb step step_pos stop t).length = ((stop.count - t.count) / step + 1).toNat := by
  fun_induction climb step step_pos stop t with
  | case1 t le ih =>
    rw [Millis.le_iff] at le
    have steps_left : 0 ≤ (stop.count - t.count) / step :=
      Int.ediv_nonneg (by omega) (Int.le_of_lt step_pos)
    cases up : t.add? step with
    | none =>
      have := Millis.lt_add_of_add?_eq_none up step_pos
      have := stop.upper
      rw [Int.ediv_eq_zero_of_lt (by omega) (by omega)]
      rfl
    | some next =>
      have sum : next.count = t.count + step := Millis.ofInt?_eq_some_iff.mp up
      have one_less : (stop.count - next.count) / step = (stop.count - t.count) / step - 1 := by
        rw [sum, ← Int.sub_sub, Int.sub_ediv_of_dvd _ (Int.dvd_refl step),
          Int.ediv_self (Int.ne_of_gt step_pos)]
      simp only [List.length_cons, ih next up, one_less]
      omega
  | case2 t beyond =>
    rw [Millis.le_iff] at beyond
    have none_left : (stop.count - t.count) / step < 0 :=
      Int.ediv_neg_of_neg_of_pos (by omega) step_pos
    simp only [List.length_nil]
    omega

end Climb

/-! ## The ticks of a window -/

/-- Whether times are those at which ticks belong: the multiples of a step in a window, all of them,
in ascending order and one step apart. -/
structure StandAt (step : Int) (w : Window) (times : List Millis) : Prop where
  mem_iff : ∀ t, t ∈ times ↔ w.contains t = true ∧ step ∣ t.count
  gap : times.IsChain fun a b => b.count = a.count + step
  ascending : times.Pairwise (· < ·)

/-- Ticks can belong at the times of one list only. -/
theorem StandAt.unique {step : Int} {w : Window} {ts ts' : List Millis} (stand : StandAt step w ts)
    (stand' : StandAt step w ts') : ts = ts' := by
  have apart : ∀ {a b : Millis}, a < b → a ≠ b := fun less same => by
    subst same
    exact Int.lt_irrefl _ less
  have perm : ts.Perm ts' :=
    (List.perm_ext_iff_of_nodup (stand.ascending.imp apart) (stand'.ascending.imp apart)).mpr
      fun t => (stand.mem_iff t).trans (stand'.mem_iff t).symm
  exact perm.eq_of_pairwise (fun a b _ _ less more => absurd (Int.lt_trans less more)
    (Int.lt_irrefl _)) stand.ascending stand'.ascending

section Window

variable {w : Window} {ts : List Millis}

/-- The last multiple that is not after the start of a window has to be in the range; the climb then
begins at the next one that is not before it, or there is none in the range. -/
theorem ofWindow_cases (w : Window) :
    (w.start.count / interval w * interval w < -9223372036854775808 ∧
        ofWindow w = .error .overflow) ∨
    (-9223372036854775808 ≤ w.start.count / interval w * interval w ∧
      ((∃ first : Millis, w.start ≤ first ∧ first.count < w.start.count + interval w ∧
          interval w ∣ first.count ∧
          ofWindow w = .ok (climb (interval w) (interval_pos w) w.stop first)) ∨
        ((∀ t : Millis, w.start ≤ t → ¬ interval w ∣ t.count) ∧ ofWindow w = .ok []))) := by
  have step_pos := interval_pos w
  have low := w.start.lower
  have divided := Int.mul_ediv_add_emod w.start.count (interval w)
  have least := Int.emod_nonneg w.start.count (Int.ne_of_gt step_pos)
  have less := Int.emod_lt_of_pos w.start.count step_pos
  have multiple : interval w ∣ w.start.count / interval w * interval w := Int.dvd_mul_left _ _
  rw [Int.mul_comm] at divided
  unfold ofWindow
  generalize w.start.count / interval w * interval w = reached at divided multiple
  cases fits : Millis.ofInt? reached with
  | none =>
    have out : reached < -9223372036854775808 := by
      unfold Millis.ofInt? at fits
      split at fits
      · cases fits
      · have := w.start.upper
        omega
    exact .inl ⟨out, rfl⟩
  | some below =>
    have same : below.count = reached := Millis.ofInt?_eq_some_iff.mp fits
    refine .inr ⟨by have := below.lower; omega, ?_⟩
    dsimp only
    by_cases before : below < w.start
    · rw [if_pos before]
      rw [Millis.lt_iff] at before
      cases up : below.add? (interval w) with
      | none =>
        refine .inr ⟨fun t from_start => ?_, rfl⟩
        rw [Millis.le_iff] at from_start
        exact not_dvd_of_top step_pos (same ▸ multiple) up (Millis.lt_iff.mpr (by omega))
      | some first =>
        have sum : first.count = below.count + interval w := Millis.ofInt?_eq_some_iff.mp up
        refine .inl ⟨first, Millis.le_iff.mpr (by omega), by omega, ?_, rfl⟩
        rw [sum, same]
        exact Int.dvd_add multiple (Int.dvd_refl _)
    · rw [if_neg before]
      rw [Millis.lt_iff] at before
      refine .inl ⟨below, ?_, ?_, same ▸ multiple, rfl⟩
      · exact Millis.le_iff.mpr (by omega)
      · omega

theorem standAt_climb {first : Millis} (from_start : w.start ≤ first)
    (least : first.count < w.start.count + interval w) (multiple : interval w ∣ first.count) :
    StandAt (interval w) w (climb (interval w) (interval_pos w) w.stop first) where
  mem_iff t := by
    rw [mem_climb]
    simp only [Window.contains, Bool.and_eq_true, decide_eq_true_eq]
    constructor
    · rintro ⟨from_first, to_stop, whole⟩
      exact ⟨⟨Int.le_trans from_start from_first, to_stop⟩,
        (Int.dvd_iff_dvd_of_dvd_sub whole).mpr multiple⟩
    · rintro ⟨⟨from_start', to_stop⟩, whole⟩
      refine ⟨?_, to_stop, Int.dvd_sub whole multiple⟩
      -- a multiple before the first one would be a whole interval before it
      rcases Int.le_total first.count t.count with le | ge
      · exact le
      · rcases eq_or_add_le ge (Int.dvd_sub multiple whole) with rfl | above
        · exact Int.le_refl _
        · rw [Millis.le_iff] at from_start'
          omega
  gap := isChain_climb
  ascending := pairwise_climb

theorem standAt_nil {step : Int} (none : ∀ t : Millis, w.start ≤ t → ¬ step ∣ t.count) :
    StandAt step w [] where
  mem_iff t := by
    simp only [List.not_mem_nil, false_iff, Window.contains, Bool.and_eq_true, decide_eq_true_eq]
    rintro ⟨⟨from_start, _⟩, whole⟩
    exact none t from_start whole
  gap := .nil
  ascending := .nil

/-- Ticks stand at the multiples of the interval, wherever the window lies; there are ticks exactly
if the multiple from which the first one is looked for has a place in the range.  The climb to the
end of any window, from any time, is over after as many steps as there are intervals left. -/
theorem stand_at_multiples (w : Window) :
    (∀ ts, ofWindow w = .ok ts ↔
      -9223372036854775808 ≤ w.start.count / interval w * interval w ∧ StandAt (interval w) w ts) ∧
    ∀ t, (climb (interval w) (interval_pos w) w.stop t).length =
      ((w.stop.count - t.count) / interval w + 1).toNat := by
  refine ⟨fun ts => ?_, fun t => length_climb⟩
  rcases ofWindow_cases w with ⟨out, failed⟩ | ⟨fits, found⟩
  · rw [failed]
    constructor
    · intro drawn
      cases drawn
    · rintro ⟨fits, _⟩
      omega
  · obtain ⟨ts', drawn, stand⟩ : ∃ ts', ofWindow w = .ok ts' ∧ StandAt (interval w) w ts' := by
      rcases found with ⟨first, from_start, least, multiple, drawn⟩ | ⟨none, drawn⟩
      · exact ⟨_, drawn, standAt_climb from_start least multiple⟩
      · exact ⟨_, drawn, standAt_nil none⟩
    rw [drawn]
    constructor
    · intro same
      cases same
      exact ⟨fits, stand⟩
    · rintro ⟨_, stand'⟩
      rw [stand.unique stand']

/-- Three minutes around the start of 1970 have a tick on either edge and one after each minute. -/
example : ofWindow ⟨⟨-120000, by decide, by decide⟩, ⟨60000, by decide, by decide⟩, by decide⟩ =
    .ok [⟨-120000, by decide, by decide⟩, ⟨-60000, by decide, by decide⟩, .zero,
      ⟨60000, by decide, by decide⟩] := by decide +kernel

end Window

end Ticks

end HouseholdDashboard
