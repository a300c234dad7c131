import HouseholdDashboard.Proofs.Chart.Growth

/-!
# The margin around the data

What is put on either side of the data goes through binary64 and back.  On the way it is always a
whole number that 64 bits hold, however far the data spans (`exists_pads`); so the edges are those
of exact arithmetic, cut off only at the ends of the range, and every time is strictly inside of
them unless it is an end of the range itself (`Pads.surrounds`).

More data never have a smaller extent, so data of the same times have the same extent
(`ofTimes_congr`).
-/

namespace HouseholdDashboard

open Binary64 (nearest)

namespace Window

/-- Whether a window holds a time and goes on beyond it on both sides, if the range does. -/
structure Surrounds (w : Window) (t : Millis) : Prop where
  contains : w.contains t = true
  before : t.count ≠ -9223372036854775808 → w.start < t
  after : t.count ≠ 9223372036854775807 → t < w.stop

end Window

namespace Extent

/-! ## What is added -/

/-- Whether a window is that of data from a first to a last time with a padding on either side: the
padding comes out of binary64 as a whole number within the range, and both edges are exact up to
where the range ends. -/
structure Pads (low high : Millis) (pad : Int) (w : Window) : Prop where
  least : 1 ≤ pad
  fits : pad ≤ 2 ^ 62
  number : ((high.subSaturating low).toBinary64 * margin).ceil.max (.finite 1) = .finite pad
  start : w.start.count = max (-9223372036854775808) (low.count - pad)
  stop : w.stop.count = min (high.count + pad) 9223372036854775807

theorem exists_pads {low high : Millis} (ordered : low ≤ high) :
    ∃ pad, Pads low high pad (around low high) := by
  have span_pos : 0 ≤ (high.subSaturating low).count := by
    rw [Millis.le_iff] at ordered
    exact Millis.saturate_mono (m := 0) (by omega)
  have span_le : (high.subSaturating low).count ≤ 2 ^ (62 + 1) := by
    have := (high.subSaturating low).upper
    omega
  have pad_pos := one_le_padding (high.subSaturating low)
  have pad_le := padding_le span_pos (n := 62) (by norm_num) span_le
  have number := toBinary64_mul_margin span_pos
  have cut := padding_eq span_pos
  generalize max (nearest _).ceil 1 = whole at number cut
  -- a number that was cut off would be an end of the range, and the padding is neither
  have exact_pad : (padding (high.subSaturating low)).count = whole := by
    rw [cut] at pad_pos pad_le ⊢
    simp only [Millis.saturate] at pad_pos pad_le ⊢
    omega
  obtain ⟨start, stop⟩ := around_eq ordered
  generalize padding (high.subSaturating low) = pad at start stop exact_pad pad_pos pad_le
  subst exact_pad
  have low_upper := low.upper
  have high_lower := high.lower
  refine ⟨pad.count, pad_pos, pad_le, number, ?_, ?_⟩
  · rw [start]
    simp only [Millis.subSaturating, Millis.saturate]
    omega
  · rw [stop]
    simp only [Millis.addSaturating, Millis.saturate]
    omega

theorem Pads.surrounds {low high t : Millis} {pad : Int} {w : Window} (pads : Pads low high pad w)
    (from_low : low ≤ t) (to_high : t ≤ high) : w.Surrounds t := by
  obtain ⟨least, -, -, start, stop⟩ := pads
  have lower := t.lower
  have upper := t.upper
  rw [Millis.le_iff] at from_low to_high
  refine ⟨?_, fun not_first => ?_, fun not_last => ?_⟩
  · simp only [Window.contains, Bool.and_eq_true, decide_eq_true_eq, Millis.le_iff]
    constructor
    · omega
    · omega
  · rw [Millis.lt_iff]
    omega
  · rw [Millis.lt_iff]
    omega

/-! ## What it is added to -/

/-- Data of the same times have the same extent, however they are put down and whenever they are
looked at. -/
theorem ofTimes_congr {marks samples marks' samples' : List Millis} (data : marks ++ samples ≠ [])
    (same : ∀ t, t ∈ marks' ++ samples' ↔ t ∈ marks ++ samples) (now now' : Millis) :
    ofTimes marks' samples' now' = ofTimes marks samples now := by
  have data' : marks' ++ samples' ≠ [] := by
    intro none
    obtain ⟨t, listed⟩ := List.exists_mem_of_ne_nil _ data
    have := (same t).mpr listed
    rw [none] at this
    cases this
  exact (ofTimes_mono data' (fun t => (same t).mp) now' now).antisymm
    (ofTimes_mono data (fun t => (same t).mpr) now now')

/-- The extent of some data surrounds each of its times.  It is found without overflow, whatever the
times are, and only the set of the times decides what it is. -/
theorem ofTimes_surrounds {marks samples : List Millis} (data : marks ++ samples ≠ [])
    (now : Millis) :
    (∀ t ∈ marks ++ samples, (ofTimes marks samples now).Surrounds t) ∧
    (∃ low ∈ marks ++ samples, ∃ high ∈ marks ++ samples, ∃ pad,
      Pads low high pad (ofTimes marks samples now)) ∧
    ∀ marks' samples' now', (∀ t, t ∈ marks' ++ samples' ↔ t ∈ marks ++ samples) →
      ofTimes marks' samples' now' = ofTimes marks samples now := by
  obtain ⟨low, low_mem, high, high_mem, between, extent⟩ := ofTimes_eq_around data now
  obtain ⟨pad, pads⟩ := exists_pads (between high high_mem).1
  rw [← extent] at pads
  refine ⟨fun t listed => ?_, ⟨low, low_mem, high, high_mem, pad, pads⟩, ?_⟩
  · exact pads.surrounds (between t listed).1 (between t listed).2
  · intro marks' samples' now' same
    exact ofTimes_congr data same now now'

/-- The two ends of the range. -/
def ends : List Millis :=
  [.saturate (-9223372036854775808), .saturate 9223372036854775807]

/-- With the ends of the range as marks there is no room beyond them, but there is around a sample
between them; as samples, in another order and one of them twice, they have the same extent. -/
theorem ofTimes_surrounds_ends :
    ends ++ [.zero] ≠ [] ∧ (ofTimes ends [.zero] .zero).Surrounds .zero ∧
      (∀ t ∈ ends, (ofTimes ends [.zero] .zero).Surrounds t) ∧
      ∀ now, ofTimes [.zero] (.zero :: ends.reverse) now = ofTimes ends [.zero] .zero := by
  have data : ends ++ [.zero] ≠ [] := by decide
  obtain ⟨surrounds, -, congr⟩ := ofTimes_surrounds data .zero
  refine ⟨data, surrounds .zero (by decide), fun t mem => ?_, fun now => ?_⟩
  · exact surrounds t (List.mem_append_left [.zero] mem)
  · refine congr [.zero] (.zero :: ends.reverse) now fun t => ?_
    simp only [ends, List.mem_append, List.mem_cons, List.mem_reverse, List.not_mem_nil, or_false]
    tauto

end Extent

end HouseholdDashboard
