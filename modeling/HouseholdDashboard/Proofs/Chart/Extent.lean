import HouseholdDashboard.Chart.Extent
import HouseholdDashboard.Proofs.Number.Bounds

/-!
# The extent holds the data

The padding is at least a millisecond, and adding it saturates; so every time that is listed lies
in the extent, also at the ends of the range, where there is no room for any padding.
-/

namespace HouseholdDashboard

namespace Extent

theorem one_le_padding (span : Millis) : 1 ≤ (padding span).count :=
  Millis.le_ofBinary64 (m := ⟨1, by decide, by decide⟩) Binary64.max_ne_nan Binary64.max_lt_right

/-! ## The first and the last time -/

theorem min_le_both (a b : Millis) : min a b ≤ a ∧ min a b ≤ b := by
  simp only [Min.min, Millis.le_iff]
  split <;> omega

theorem both_le_max (a b : Millis) : a ≤ max a b ∧ b ≤ max a b := by
  simp only [Max.max, Millis.le_iff]
  split <;> omega

/-- If what is picked of two times is related to both of them, then what a fold picks is related to
each of the folded times. -/
theorem foldl_related {R : Millis → Millis → Prop} {pick : Millis → Millis → Millis}
    (refl : ∀ a, R a a) (trans : ∀ {a b c}, R a b → R b c → R a c)
    (both : ∀ a b, R (pick a b) a ∧ R (pick a b) b) {first : Millis} {rest : List Millis}
    {t : Millis} (listed : t ∈ first :: rest) : R (rest.foldl pick first) t := by
  induction rest generalizing first t with
  | nil =>
    rw [List.mem_singleton.mp listed]
    exact refl _
  | cons next rest ih =>
    have picked : R (rest.foldl pick (pick first next)) (pick first next) := ih List.mem_cons_self
    simp only [List.mem_cons] at listed
    rcases listed with rfl | rfl | later
    · exact trans picked (both _ _).1
    · exact trans picked (both _ _).2
    · exact ih (List.mem_cons_of_mem _ later)

theorem foldl_min_le {first : Millis} {rest : List Millis} {t : Millis}
    (listed : t ∈ first :: rest) : rest.foldl min first ≤ t :=
  foldl_related (R := (· ≤ ·)) (fun _ => Int.le_refl _) Int.le_trans min_le_both listed

theorem le_foldl_max {first : Millis} {rest : List Millis} {t : Millis}
    (listed : t ∈ first :: rest) : t ≤ rest.foldl max first :=
  foldl_related (R := (· ≥ ·)) (fun _ => Int.le_refl _) (fun ab bc => Int.le_trans bc ab)
    both_le_max listed

/-! ## The extent -/

/-- Two times with something put on either side hold what lies between them. -/
theorem contains_padded {low high pad t : Millis} (some_pad : 0 ≤ pad.count) (from_low : low ≤ t)
    (to_high : t ≤ high) :
    (Window.spanning (low.subSaturating pad) (high.addSaturating pad)).contains t = true := by
  have := low.lower
  have := high.upper
  simp only [Millis.le_iff] at from_low to_high
  have first : (low.subSaturating pad).count ≤ t.count := by
    simp only [Millis.subSaturating, Millis.saturate]
    omega
  have last : t.count ≤ (high.addSaturating pad).count := by
    simp only [Millis.addSaturating, Millis.saturate]
    omega
  have ordered : low.subSaturating pad ≤ high.addSaturating pad := Int.le_trans first last
  simp [Window.spanning, ordered, Window.contains, Millis.le_iff, first, last]

/-- Every time that is listed lies in the extent. -/
theorem ofTimes_contains {marks samples : List Millis} {now t : Millis}
    (listed : t ∈ marks ++ samples) : (ofTimes marks samples now).contains t = true := by
  unfold ofTimes
  cases times : marks ++ samples with
  | nil => simp [times] at listed
  | cons first rest =>
    rw [times] at listed
    exact contains_padded (Int.le_trans (by decide) (one_le_padding _)) (foldl_min_le listed)
      (le_foldl_max listed)

/-- The extent of some data does not depend on the moment. -/
theorem ofTimes_now {marks samples : List Millis} (data : marks ++ samples ≠ [])
    (now other : Millis) : ofTimes marks samples now = ofTimes marks samples other := by
  unfold ofTimes
  cases times : marks ++ samples with
  | nil => exact absurd times data
  | cons first rest => rfl

end Extent

end HouseholdDashboard
