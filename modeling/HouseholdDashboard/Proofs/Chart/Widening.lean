import HouseholdDashboard.Proofs.Chart.Drag
import HouseholdDashboard.Proofs.Chart.Scaling

/-!
# Getting back to the full extent

Changes that make the window longer at every step show the full extent in the end
(`changes_spread`).  Zooming out is such a change: it doubles every window but a single moment, which
it never leaves (`zoomOut_restores_iff`).  Where such a moment comes from is followed along a run
(`Run.lasting`): one has to be chosen, or the full extent has to be one.
-/

namespace HouseholdDashboard

open Binary64

namespace Viewport

variable {v u : Viewport} {x : Rat}

/-! ## Step by step -/

/-- Changes that widen a zoom or give it up give it up in the end, if the size of a zoom is bounded
and there are enough of them. -/
theorem changes_spread {P : Viewport → Prop} (size : Viewport → Nat) (limit : Nat)
    {cs : List Change} (bounded : ∀ {v}, P v → size v < limit)
    (step : ∀ {v}, P v → ∀ c ∈ cs, v.change c = .ok { v with zoom := none } ∨
      ∃ zoom, v.change c = .ok { v with zoom := some zoom } ∧ P { v with zoom := some zoom } ∧
        size v < size { v with zoom := some zoom })
    (rest : ∀ {v : Viewport}, v.zoom = none → ∀ c ∈ cs, v.change c = .ok v) (h : P v)
    (enough : limit ≤ size v + cs.length) : v.changes cs = .ok { v with zoom := none } := by
  induction cs generalizing v with
  | nil =>
    have less := bounded h
    simp only [List.length_nil] at enough
    omega
  | cons c cs ih =>
    have rest' : ∀ {v : Viewport}, v.zoom = none → ∀ c ∈ cs, v.change c = .ok v :=
      fun none c made => rest none c (List.mem_cons_of_mem _ made)
    rcases step h c List.mem_cons_self with spread | ⟨zoom, zoomed, h', wider⟩
    · rw [changes_cons spread]
      obtain ⟨w, became, rfl⟩ := changes_keep (P := fun w => w = { v with zoom := none })
        (fun same c made => ⟨_, rest' (by rw [same]) c made, same⟩) rfl
      exact became
    · rw [changes_cons zoomed]
      simp only [List.length_cons] at enough
      exact ih (fun h c made => step h c (List.mem_cons_of_mem _ made)) rest' h' (by omega)

/-- Zooming out by a factor leaves the full extent as it is. -/
theorem Scaled.eq_of_unzoomed {factor : Rat} (scaled : v.Scaled (v.asked factor) u)
    (one_le : 1 ≤ factor) (none : v.zoom = none) : u = v := by
  obtain ⟨full, zoom, drag⟩ := v
  cases none
  exact scaled.eq_spread one_le (Int.le_refl _)

/-! ## Doubling -/

/-- Whether the window is a single moment, and the full extent is not. -/
def Pinched (v : Viewport) : Prop :=
  v.current.width.count = 0 ∧ 0 < v.full.width.count

instance (v : Viewport) : Decidable v.Pinched :=
  inferInstanceAs (Decidable (v.current.width.count = 0 ∧ 0 < v.full.width.count))

/-- The number of times that a millisecond can be doubled within the window. -/
def doublings (v : Viewport) : Nat := v.current.width.count.toNat.log2

theorem doublings_lt (v : Viewport) : v.doublings < 63 := by
  have upper := v.current.width.upper
  rcases Nat.eq_zero_or_pos v.current.width.count.toNat with none | pos
  · rw [doublings, none]
    decide
  · rw [doublings, Nat.log2_lt pos.ne']
    omega

theorem zoomOut_rest (none : v.zoom = none) : v.zoomOut = .ok v := by
  obtain ⟨u, became, scaled⟩ := v.exists_zoomOut
  rw [became, scaled.eq_of_unzoomed (by norm_num) none]

/-- Zooming out doubles a window or shows the full extent, unless the window is a single moment. -/
theorem zoomOut_step (apart : ¬ v.Pinched) :
    v.zoomOut = .ok { v with zoom := none } ∨
      ∃ zoom, v.zoomOut = .ok { v with zoom := some zoom } ∧
        ¬ ({ v with zoom := some zoom } : Viewport).Pinched ∧
        v.doublings < ({ v with zoom := some zoom } : Viewport).doublings := by
  obtain ⟨u, became, scaled⟩ := v.exists_zoomOut
  by_cases long : v.full.width.count ≤ v.current.width.count
  · exact .inl (by rw [became, scaled.eq_spread (by norm_num) long])
  · have length_pos := v.current.width_nonneg
    have pos : 0 < v.current.width.count := by
      simp only [Pinched] at apart
      omega
    cases scaled with
    | spread => exact .inl became
    | @fit zoom _ _ _ width =>
      have length : (2 : Rat) ^ v.doublings ≤ v.current.width.count := by
        have power := Nat.log2_self_le (n := v.current.width.count.toNat) (by omega)
        have power : (2 : Int) ^ v.doublings ≤ v.current.width.count := by
          rw [← Int.toNat_of_nonneg length_pos]
          exact_mod_cast power
        exact_mod_cast power
      have doubled : (2 : Rat) ^ (v.doublings + 1) ≤ v.asked 2 := by
        have kept := (representable_two_pow v.doublings).le_nearest (by positivity) length
        rw [asked_two, pow_succ, mul_comm]
        linarith
      have asked_pos : 0 ≤ v.asked 2 := (v.representable_asked (by norm_num)).nonneg
      have wide : (2 : Int) ^ (v.doublings + 1) ≤ zoom.width.count := by
        rw [width]
        exact le_roundAway (by exact_mod_cast doubled)
      have zoom_pos : 0 < zoom.width.count := lt_of_lt_of_le (by positivity) wide
      refine .inr ⟨zoom, became, fun pinched => absurd pinched.1 zoom_pos.ne', ?_⟩
      show v.doublings + 1 ≤ zoom.width.count.toNat.log2
      rw [Nat.le_log2 (by omega)]
      zify
      rwa [Int.toNat_of_nonneg zoom_pos.le]

/-- A single moment stays one, however often the viewport is zoomed out. -/
theorem zoomOut_of_pinched (pinched : v.Pinched) : ∃ u, v.zoomOut = .ok u ∧ u.Pinched := by
  obtain ⟨empty, some_extent⟩ := pinched
  have nothing : v.asked 2 = 0 := asked_of_empty empty 2
  obtain ⟨u, became, scaled⟩ := v.exists_zoomOut
  refine ⟨u, became, ?_⟩
  rw [nothing] at scaled
  cases scaled with
  | spread reaches =>
    have one := Millis.one_le_nearest_count some_extent
    linarith
  | fit _ _ _ width => exact ⟨width.trans (by decide +kernel), some_extent⟩

/-- Enough steps show the full extent. -/
theorem zoomOuts_spread (apart : ¬ v.Pinched) {n : Nat} (enough : 63 ≤ n) :
    v.changes (List.replicate n .zoomOut) = .ok { v with zoom := none } := by
  refine changes_spread (P := fun v => ¬ v.Pinched) doublings 63 (fun _ => doublings_lt _)
    (fun apart c made => ?_) (fun none c made => ?_) apart ?_
  · rw [List.eq_of_mem_replicate made]
    exact zoomOut_step apart
  · rw [List.eq_of_mem_replicate made]
    exact zoomOut_rest none
  · rw [List.length_replicate]
    omega

theorem zoomOuts_of_pinched (pinched : v.Pinched) (n : Nat) :
    ∃ u, v.changes (List.replicate n .zoomOut) = .ok u ∧ u.Pinched :=
  changes_keep (P := Pinched) (fun pinched c made => by
    rw [List.eq_of_mem_replicate made]
    exact zoomOut_of_pinched pinched) pinched

theorem Pinched.isZoomed (pinched : v.Pinched) : v.isZoomed = true := by
  cases zoomed : v.isZoomed with
  | true => rfl
  | false =>
    obtain ⟨empty, some_extent⟩ := pinched
    rw [current_of_not_zoomed zoomed] at empty
    omega

/-! ## Where a single moment comes from -/

/-- Whether a change chose a window that is a single moment, or was made to a full extent that is
one. -/
def Passage.Pinches (p : Passage) : Prop :=
  (∃ window, p.change = .zoomTo window ∧ window.width.count = 0) ∨ p.before.full.width.count = 0

/-- Whether neither the window nor the one from which a drag began is a single moment. -/
structure Lasting (v : Viewport) : Prop where
  current : 0 < v.current.width.count
  drag : ∀ d, v.drag = some d → 0 < d.window.width.count

theorem width_pos_of_zoomedTo {start : Binary64} (half_le : 1 / 2 ≤ x)
    (some_extent : 0 < v.full.width.count) (zoomed : v.zoomedTo start (.finite x) = .ok u) :
    0 < u.current.width.count := by
  obtain ⟨zoom, placed, rfl⟩ := zoomedTo_eq_ok zoomed
  obtain ⟨longest, rounded⟩ := exists_nearest_intCast v.full.width_nonneg
  have pos : 0 ≤ x := le_trans (by norm_num) half_le
  have one := one_le_roundAway half_le
  have some_room : (1 : Int) ≤ longest := by
    have room := Millis.one_le_nearest_count some_extent
    rw [rounded] at room
    exact_mod_cast room
  have width : zoom.width = .saturate (min (roundAway x) longest) :=
    (width_of_place placed).trans (spanWidth_eq_saturate pos rounded)
  show 0 < zoom.width.count
  rw [width]
  simp only [Millis.saturate]
  omega

theorem Scaled.width_pos (scaled : v.Scaled x u) (half_le : 1 / 2 ≤ x)
    (some_extent : 0 < v.full.width.count) : 0 < u.current.width.count := by
  cases scaled with
  | spread => exact some_extent
  | @fit zoom _ _ _ width =>
    show 0 < zoom.width.count
    rw [width]
    have one := one_le_roundAway half_le
    omega

theorem width_pos_of_zoomTo {window : Window} (chosen : 0 < window.width.count)
    (some_extent : 0 < v.full.width.count) (became : v.zoomTo window = .ok u) :
    0 < u.current.width.count := by
  have one := Millis.one_le_nearest_count chosen
  have half_le : (1 / 2 : Rat) ≤ nearest window.width.count := by linarith
  rw [zoomTo] at became
  dsimp only at became
  split at became
  · cases became
    exact some_extent
  · rw [Millis.toBinary64_eq window.width_nonneg] at became
    exact width_pos_of_zoomedTo (v := { v with drag := none }) half_le some_extent became

/-- A drag places a window as long as the one from which it began. -/
theorem Lasting.width_pos_of_dragTo (lasting : v.Lasting) {x chartWidth : Binary64}
    (some_extent : 0 < v.full.width.count) (became : v.dragTo x chartWidth = .ok u) :
    0 < u.current.width.count := by
  rw [dragTo] at became
  split at became
  · cases became
    exact lasting.current
  · rename_i origin dragging
    split at became
    · cases became
      exact lasting.current
    · have one := Millis.one_le_nearest_count (lasting.drag origin dragging)
      rw [Millis.toBinary64_eq origin.window.width_nonneg] at became
      exact width_pos_of_zoomedTo (by linarith) some_extent became

theorem Lasting.width_pos_of_setFull (lasting : v.Lasting) {full : Window}
    (some_extent : 0 < full.width.count) : 0 < (v.setFull full).current.width.count := by
  have current := lasting.current
  obtain ⟨old, zoom, drag⟩ := v
  cases zoom with
  | none => exact some_extent
  | some zoom =>
    simp only [setFull]
    split
    · exact some_extent
    · exact current

/-- A change makes a single moment of a window only by choosing one. -/
theorem Lasting.change_current {c : Change} (lasting : v.Lasting) (became : v.change c = .ok u)
    (some_extent : 0 < v.full.width.count) (some_extent' : 0 < u.full.width.count)
    (chosen : ∀ window, c = .zoomTo window → 0 < window.width.count) :
    0 < u.current.width.count := by
  cases c with
  | zoomIn =>
    rw [Viewport.change, zoomIn, v.toBinary64_mul_eq_asked (by norm_num) (by norm_num)] at became
    exact width_pos_of_zoomedTo (half_le_asked lasting.current (le_refl _)) some_extent became
  | zoomOut =>
    obtain ⟨w, became', scaled⟩ := v.exists_zoomOut
    cases became.symm.trans became'
    exact scaled.width_pos (half_le_asked lasting.current (by norm_num)) some_extent
  | zoomTo window => exact width_pos_of_zoomTo (chosen window rfl) some_extent became
  | wheel direction cursor =>
    obtain ⟨w, became', scaled⟩ := v.exists_wheel direction cursor
    cases became.symm.trans became'
    exact scaled.width_pos (half_le_asked lasting.current direction.half_le_ratio) some_extent
  | startDrag x =>
    cases became
    rw [startDrag_current]
    exact lasting.current
  | dragTo x chartWidth => exact lasting.width_pos_of_dragTo some_extent became
  | endDrag =>
    cases became
    exact lasting.current
  | reset =>
    cases became
    exact some_extent
  | setFull full =>
    cases became
    rw [setFull_full] at some_extent'
    exact lasting.width_pos_of_setFull some_extent'

theorem Lasting.change {c : Change} (lasting : v.Lasting) (became : v.change c = .ok u)
    (some_extent : 0 < v.full.width.count) (some_extent' : 0 < u.full.width.count)
    (chosen : ∀ window, c = .zoomTo window → 0 < window.width.count) : u.Lasting where
  current := lasting.change_current became some_extent some_extent' chosen
  drag d dragging := by
    rcases (change_outcome became).drag dragging with ⟨⟨_, zoomed⟩, _⟩ | ⟨before, _⟩
    · have window : v.current = d.window := by rw [Viewport.current, zoomed]; rfl
      rw [← window]
      exact lasting.current
    · exact lasting.drag d before

/-- Along a run that never chooses a single moment, and whose extents are all longer than that,
there is none. -/
theorem Run.lasting {history : List Passage} (run : Run v history)
    (fair : ∀ p ∈ history, ¬ p.Pinches) (some_extent : 0 < v.full.width.count) : v.Lasting := by
  induction run with
  | start full => exact ⟨some_extent, fun d dragging => by cases dragging⟩
  | @change v w history run c became ih =>
    have fair' := fair ⟨v, c, w⟩ List.mem_cons_self
    simp only [Passage.Pinches, not_or, not_exists, not_and] at fair'
    have extent : 0 < v.full.width.count := lt_of_le_of_ne v.full.width_nonneg (Ne.symm fair'.2)
    have earlier := ih (fun p made => fair p (List.mem_cons_of_mem _ made)) extent
    refine earlier.change became extent some_extent fun window same => ?_
    exact lt_of_le_of_ne window.width_nonneg (Ne.symm (fair'.1 window same))

theorem Run.exists_pinches {history : List Passage} (run : Run v history) (pinched : v.Pinched) :
    ∃ p ∈ history, p.Pinches := by
  by_contra none
  have fair : ∀ p ∈ history, ¬ p.Pinches := fun p made pinches => none ⟨p, made, pinches⟩
  exact (run.lasting fair pinched.2).current.ne' pinched.1

/-- Zooming out again and again gets back to the full extent, and does so in 63 steps, exactly if
the window is not a single moment of a longer extent.  Such a window is kept for ever; it comes from
choosing one, or from an extent that was itself a single moment. -/
theorem zoomOut_restores_iff {history : List Passage} (run : Run v history) :
    ((∃ n u, v.changes (List.replicate n .zoomOut) = .ok u ∧ u.isZoomed = false ∧
        u.current = v.full) ↔ ¬ v.Pinched) ∧
    (¬ v.Pinched → ∀ n, 63 ≤ n →
      v.changes (List.replicate n .zoomOut) = .ok { v with zoom := none }) ∧
    (v.Pinched → (∀ n, ∃ u, v.changes (List.replicate n .zoomOut) = .ok u ∧ u.Pinched) ∧
      ∃ p ∈ history, p.Pinches) := by
  refine ⟨⟨?_, fun apart => ?_⟩, fun apart n enough => zoomOuts_spread apart enough,
    fun pinched => ⟨zoomOuts_of_pinched pinched, run.exists_pinches pinched⟩⟩
  · rintro ⟨n, u, became, unzoomed, _⟩ pinched
    obtain ⟨u', became', pinched'⟩ := zoomOuts_of_pinched pinched n
    cases became.symm.trans became'
    rw [pinched'.isZoomed] at unzoomed
    cases unzoomed
  · exact ⟨63, _, zoomOuts_spread apart (le_refl _), rfl, rfl⟩

/-- The first millisecond of 1970. -/
def firstMilli : Window := ⟨.zero, ⟨1, by decide, by decide⟩, by decide⟩

/-- Its first moment. -/
def moment : Viewport :=
  (ofExtent firstMilli).advance (.zoomTo ⟨.zero, .zero, by decide⟩)

theorem moment_pinched : moment.Pinched := by decide +kernel

theorem moment_reachable : moment.Reachable :=
  (Reachable.start _).advance _

theorem zoomOut_restores_iff_moment :
    (∃ history, Run moment history ∧ moment.Pinched ∧
      (∀ n, ∃ u, moment.changes (List.replicate n .zoomOut) = .ok u ∧ u.Pinched) ∧
      ∃ p ∈ history, p.Pinches) ∧
    ∃ history, Run panned history ∧ ¬ panned.Pinched ∧
      panned.changes (List.replicate 63 .zoomOut) = .ok { panned with zoom := none } := by
  obtain ⟨history, run⟩ := moment_reachable
  obtain ⟨history', run'⟩ : panned.Reachable := (Reachable.start _).advances _
  have apart : ¬ panned.Pinched := by decide +kernel
  obtain ⟨_, _, kept⟩ := zoomOut_restores_iff run
  obtain ⟨_, restores, _⟩ := zoomOut_restores_iff run'
  obtain ⟨always, chosen⟩ := kept moment_pinched
  exact ⟨⟨history, run, moment_pinched, always, chosen⟩,
    history', run', apart, restores apart 63 (le_refl _)⟩

/-- However often a chosen moment is zoomed out, the full extent does not come back. -/
theorem moment_stays_zoomed :
    moment.Reachable ∧ ∀ n u, moment.changes (List.replicate n .zoomOut) = .ok u →
      u.isZoomed = true ∧ u.current.width.count = 0 := by
  refine ⟨moment_reachable, fun n u became => ?_⟩
  obtain ⟨u', became', pinched⟩ := zoomOuts_of_pinched moment_pinched n
  cases became.symm.trans became'
  exact ⟨pinched.isZoomed, pinched.1⟩

end Viewport

end HouseholdDashboard
