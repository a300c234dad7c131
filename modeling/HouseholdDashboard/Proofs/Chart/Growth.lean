import HouseholdDashboard.Proofs.Chart.Reach

/-!
# The extent grows with the data

The more times there are, the wider they span, the more is put on either side of them, and the
further the extent reaches (`Extent.ofTimes_mono`).  Each of these keeps the order, at the ends of
the range too, where the span, the padding and both edges are cut off.
-/

namespace HouseholdDashboard

open Binary64 (nearest nearest_nonneg nearest_mono)

namespace Millis

theorem saturate_mono {m n : Int} (h : m ≤ n) : saturate m ≤ saturate n := by
  simp only [le_iff, saturate]
  omega

theorem subSaturating_mono {a a' b b' : Millis} (more : a ≤ a') (less : b' ≤ b) :
    a.subSaturating b ≤ a'.subSaturating b' := by
  rw [le_iff] at more less
  exact saturate_mono (by omega)

theorem addSaturating_mono {a a' b b' : Millis} (more : a ≤ a') (more' : b ≤ b') :
    a.addSaturating b ≤ a'.addSaturating b' := by
  rw [le_iff] at more more'
  exact saturate_mono (by omega)

end Millis

namespace Extent

/-! ## The padding -/

theorem padding_mono {a b : Millis} (pos : 0 ≤ a.count) (h : a ≤ b) : padding a ≤ padding b := by
  have part_pos : 0 ≤ nearest (5 / 100) := nearest_nonneg (by norm_num)
  have length_pos : (0 : Rat) ≤ a.count := Int.cast_nonneg pos
  have lengths : nearest a.count ≤ nearest b.count := nearest_mono length_pos (Int.cast_le.mpr h)
  have parts : nearest (nearest a.count * nearest (5 / 100)) ≤
      nearest (nearest b.count * nearest (5 / 100)) :=
    nearest_mono (mul_nonneg (nearest_nonneg length_pos) part_pos)
      (mul_le_mul_of_nonneg_right lengths part_pos)
  have whole := Rat.ceil_le_iff.mpr (parts.trans Rat.le_ceil)
  rw [padding_eq pos, padding_eq (Int.le_trans pos h)]
  exact Millis.saturate_mono (max_le_max_right 1 whole)

/-! ## The extent -/

/-- The window around two times with the padding for their span on either side. -/
def around (low high : Millis) : Window :=
  let pad := padding (high.subSaturating low)
  .spanning (low.subSaturating pad) (high.addSaturating pad)

/-- The extent of some data is the window around the first and the last time of it. -/
theorem ofTimes_eq_around {marks samples : List Millis} (data : marks ++ samples ≠ [])
    (now : Millis) :
    ∃ low ∈ marks ++ samples, ∃ high ∈ marks ++ samples,
      (∀ t ∈ marks ++ samples, low ≤ t ∧ t ≤ high) ∧
        ofTimes marks samples now = around low high := by
  unfold ofTimes
  cases times : marks ++ samples with
  | nil => exact absurd times data
  | cons first rest =>
    exact ⟨_, foldl_mem min_eq_or first rest, _, foldl_mem max_eq_or first rest,
      fun t listed => ⟨foldl_min_le listed, le_foldl_max listed⟩, rfl⟩

theorem around_eq {low high : Millis} (ordered : low ≤ high) :
    (around low high).start = low.subSaturating (padding (high.subSaturating low)) ∧
      (around low high).stop = high.addSaturating (padding (high.subSaturating low)) := by
  have pad := one_le_padding (high.subSaturating low)
  rw [Millis.le_iff] at ordered
  have edges : low.subSaturating (padding (high.subSaturating low)) ≤
      high.addSaturating (padding (high.subSaturating low)) := Millis.saturate_mono (by omega)
  rw [around, Window.spanning_of_le edges]
  exact ⟨rfl, rfl⟩

/-- The further apart two times are, the further reaches the window around them. -/
theorem around_mono {low low' high high' : Millis} (earlier : low' ≤ low) (ordered : low ≤ high)
    (later : high ≤ high') : (around low high).Within (around low' high') := by
  have ordered' : low' ≤ high' := Int.le_trans earlier (Int.le_trans ordered later)
  have span_pos : 0 ≤ (high.subSaturating low).count := by
    rw [Millis.le_iff] at ordered
    exact Millis.saturate_mono (m := 0) (by omega)
  have pads : padding (high.subSaturating low) ≤ padding (high'.subSaturating low') :=
    padding_mono span_pos (Millis.subSaturating_mono later earlier)
  obtain ⟨start, stop⟩ := around_eq ordered
  obtain ⟨start', stop'⟩ := around_eq ordered'
  rw [Window.Within, start, stop, start', stop']
  exact ⟨Millis.subSaturating_mono earlier pads, Millis.addSaturating_mono later pads⟩

/-- More data have an extent that holds the extent of less. -/
theorem ofTimes_mono {marks samples marks' samples' : List Millis} (data : marks ++ samples ≠ [])
    (more : marks ++ samples ⊆ marks' ++ samples') (now now' : Millis) :
    (ofTimes marks samples now).Within (ofTimes marks' samples' now') := by
  obtain ⟨low, low_mem, high, high_mem, between, extent⟩ := ofTimes_eq_around data now
  obtain ⟨low', -, high', -, between', extent'⟩ :=
    ofTimes_eq_around (fun none => data (List.subset_nil.mp (none ▸ more))) now'
  rw [extent, extent']
  exact around_mono (between' low (more low_mem)).1 (between low low_mem).2
    (between' high (more high_mem)).2

end Extent

end HouseholdDashboard
