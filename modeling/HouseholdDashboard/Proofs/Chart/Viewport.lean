import HouseholdDashboard.Proofs.Number.Bounds
import HouseholdDashboard.Session.Action

/-!
# What becomes of a viewport

Everything that can be done to a viewport is a change.  `change_outcome` lists what a change can
come to, and what holds along every run is derived from that list alone: a zoom lies inside of the
full extent (`Reachable.zoom_within`), and a viewport that was brought in line with an extent stays
so until another comes (`InLine.change`).

A run keeps a record of each change with the viewport before and after it, the latest first.
Changes whose arithmetic has no result are not part of a run.
-/

namespace HouseholdDashboard

namespace Window

/-- Whether a window lies inside of another; they may share edges. -/
def Within (inner outer : Window) : Prop :=
  outer.start ≤ inner.start ∧ inner.stop ≤ outer.stop

theorem Within.refl (w : Window) : w.Within w :=
  ⟨Int.le_refl _, Int.le_refl _⟩

theorem Within.trans {a b c : Window} (inner : a.Within b) (outer : b.Within c) : a.Within c :=
  ⟨Int.le_trans outer.1 inner.1, Int.le_trans inner.2 outer.2⟩

theorem Within.antisymm {a b : Window} (inner : a.Within b) (outer : b.Within a) : a = b := by
  obtain ⟨starts, stops⟩ := inner
  obtain ⟨starts', stops'⟩ := outer
  have start : a.start = b.start := Millis.ext (Int.le_antisymm starts' starts)
  have stop : a.stop = b.stop := Millis.ext (Int.le_antisymm stops stops')
  cases a
  cases b
  cases start
  cases stop
  rfl

theorem spanning_of_le {a b : Millis} (h : a ≤ b) : spanning a b = ⟨a, b, h⟩ := by
  simp [spanning, h]

end Window

namespace Millis

theorem count_min (a b : Millis) : (min a b).count = min a.count b.count := by
  simp only [Min.min, le_iff]
  split <;> rfl

theorem count_max (a b : Millis) : (max a b).count = max a.count b.count := by
  simp only [Max.max, le_iff]
  split <;> rfl

end Millis

namespace Viewport

/-! ## Placing a window -/

theorem spanWidth_nonneg (full : Window) (width : Binary64) : 0 ≤ (spanWidth full width).count :=
  Millis.ofBinary64_nonneg
    (Binary64.clamp_lt_low (Binary64.ofInt_lt_zero full.width_nonneg))

section Place

variable {full w : Window} {start width : Binary64}

/-- A window for which there is room is placed as near to the given start as the extent allows. -/
theorem place_of_room (start : Binary64)
    (room : (spanWidth full width).count ≤ full.stop.count - full.start.count) :
    ∃ w, place full start width = .ok w ∧
      w.start.count = min (max (Millis.ofBinary64 start.round).count full.start.count)
        (full.stop.count - (spanWidth full width).count) ∧
      w.stop.count = w.start.count + (spanWidth full width).count := by
  have wide := spanWidth_nonneg full width
  have lower := full.start.lower
  have upper := full.stop.upper
  unfold place
  generalize spanWidth full width = length at room wide
  generalize Millis.ofBinary64 start.round = wanted
  let latest : Millis := ⟨full.stop.count - length.count, by omega, by omega⟩
  have subtracted : full.stop.sub? length.count = some latest := Millis.ofInt?_eq_some_iff.mpr rfl
  have roomy : ¬ latest < full.start := by
    rw [Millis.lt_iff]
    show ¬ full.stop.count - length.count < full.start.count
    omega
  let first := min (max wanted full.start) latest
  have first_eq : first.count =
      min (max wanted.count full.start.count) (full.stop.count - length.count) := by
    simp only [first, latest, Millis.count_min, Millis.count_max]
  let stop : Millis := ⟨first.count + length.count, by omega, by omega⟩
  have added : first.add? length.count = some stop := Millis.ofInt?_eq_some_iff.mpr rfl
  have ordered : first ≤ stop := by
    rw [Millis.le_iff]
    show first.count ≤ first.count + length.count
    omega
  refine ⟨⟨first, stop, ordered⟩, ?_, first_eq, rfl⟩
  simp only [subtracted, if_neg roomy]
  rw [show (min (max wanted full.start) latest).add? length.count = some stop from added]
  exact congrArg _ (Window.spanning_of_le ordered)

theorem room_of_place (placed : place full start width = .ok w) :
    (spanWidth full width).count ≤ full.stop.count - full.start.count := by
  unfold place at placed
  dsimp only at placed
  split at placed
  · cases placed
  · rename_i latest subtracted
    have latest_eq := Millis.ofInt?_eq_some_iff.mp subtracted
    split at placed
    · cases placed
    · rename_i roomy
      rw [Millis.lt_iff] at roomy
      omega

/-- Where a window is placed, and how long it is. -/
theorem place_eq_ok (placed : place full start width = .ok w) :
    w.start.count = min (max (Millis.ofBinary64 start.round).count full.start.count)
        (full.stop.count - (spanWidth full width).count) ∧
      w.stop.count = w.start.count + (spanWidth full width).count := by
  obtain ⟨w', placed', edges⟩ := place_of_room start (room_of_place placed)
  rw [placed] at placed'
  cases placed'
  exact edges

/-- A window that is placed lies inside of the extent, wherever it was to begin. -/
theorem within_of_place (placed : place full start width = .ok w) : w.Within full := by
  have wide := spanWidth_nonneg full width
  have room := room_of_place placed
  obtain ⟨first, last⟩ := place_eq_ok placed
  rw [Window.Within, Millis.le_iff, Millis.le_iff]
  omega

theorem width_of_place (placed : place full start width = .ok w) :
    w.width = spanWidth full width := by
  obtain ⟨_, last⟩ := place_eq_ok placed
  have lower := (spanWidth full width).lower
  have upper := (spanWidth full width).upper
  have exact_width : w.width.count = w.stop.count - w.start.count :=
    Millis.saturate_of_inRange (by omega) (by omega)
  exact Millis.ext (by omega)

end Place

theorem zoomedTo_eq_ok {v w : Viewport} {start width : Binary64}
    (zoomed : v.zoomedTo start width = .ok w) :
    ∃ zoom : Window, place v.full start width = .ok zoom ∧ w = { v with zoom := some zoom } := by
  unfold zoomedTo at zoomed
  cases placed : place v.full start width with
  | error fault => simp [placed, Except.map] at zoomed
  | ok zoom =>
    simp only [placed, Except.map, Except.ok.injEq] at zoomed
    exact ⟨zoom, rfl, zoomed.symm⟩

/-! ## Changes -/

/-- What can be done to a viewport. -/
inductive Change where
  | zoomIn
  | zoomOut
  | zoomTo (window : Window)
  | wheel (direction : Wheel) (cursor : Binary64)
  | startDrag (x : Binary64)
  | dragTo (x chartWidth : Binary64)
  | endDrag
  | reset
  | setFull (full : Window)
deriving DecidableEq

/-- The viewport after a change. -/
def change (v : Viewport) : Change → Except ArithmeticFault Viewport
  | .zoomIn => v.zoomIn
  | .zoomOut => v.zoomOut
  | .zoomTo window => v.zoomTo window
  | .wheel direction cursor => v.wheel direction cursor
  | .startDrag x => .ok (v.startDrag x)
  | .dragTo x chartWidth => v.dragTo x chartWidth
  | .endDrag => .ok v.endDrag
  | .reset => .ok v.reset
  | .setFull full => .ok (v.setFull full)

/-- The viewport after a change; one that has no result is passed over. -/
def advance (v : Viewport) (c : Change) : Viewport :=
  match v.change c with
  | .ok w => w
  | .error _ => v

/-- Whether a change zooms by a factor or moves the window, and so has no say in a drag. -/
def Change.isMotion : Change → Bool
  | .zoomIn | .zoomOut | .wheel .. | .dragTo .. => true
  | _ => false

/-- Whether a change asks for a window by a factor that is at least as wide as the full extent. -/
def reachesFull (v : Viewport) : Change → Bool
  | .zoomOut => v.full.width.toBinary64.le (v.current.width.toBinary64 * number 2)
  | .wheel direction _ =>
    v.full.width.toBinary64.le (v.current.width.toBinary64 * direction.factor)
  | _ => false

/-- What a change can come to. -/
inductive Outcome (v : Viewport) : Change → Viewport → Prop
  /-- A window inside of the extent is shown; a drag goes on. -/
  | move {c : Change} {zoom : Window} (motion : c.isMotion = true)
      (short : v.reachesFull c = false) (within : zoom.Within v.full) :
      Outcome v c { v with zoom := some zoom }
  /-- The full extent is shown; a drag goes on. -/
  | spread {c : Change} (motion : c.isMotion = true) (full : v.reachesFull c = true) :
      Outcome v c { v with zoom := none }
  /-- A chosen window is shown; no drag goes on. -/
  | choose {window zoom : Window} (within : zoom.Within v.full) :
      Outcome v (.zoomTo window) { v with zoom := some zoom, drag := none }
  /-- The full extent is shown; no drag goes on. -/
  | clear {c : Change} (chosen : c = .reset ∨ ∃ window, c = .zoomTo window) :
      Outcome v c { v with zoom := none, drag := none }
  | begin {x : Binary64} {zoom : Window} (zoomed : v.zoom = some zoom) :
      Outcome v (.startDrag x) { v with drag := some ⟨x, zoom⟩ }
  | release : Outcome v .endDrag { v with drag := none }
  /-- A new extent holds the zoom, if there is one. -/
  | extend {full : Window} (fits : ∀ zoom, v.zoom = some zoom → zoom.Within full) :
      Outcome v (.setFull full) { v with full }
  /-- A new extent does not hold the zoom. -/
  | outgrow {full : Window} : Outcome v (.setFull full) ⟨full, none, none⟩
  /-- There is nothing to drag. -/
  | stay {c : Change} (idle : (∃ x, c = .startDrag x ∧ v.zoom = none) ∨ ∃ x w, c = .dragTo x w) :
      Outcome v c v

/-- Zooming by a factor shows the full extent if the factor reaches it, and else places a window. -/
theorem scaled_outcome {v w : Viewport} {c : Change} {start width : Binary64}
    (motion : c.isMotion = true)
    (became : (if v.reachesFull c then .ok { v with zoom := none } else v.zoomedTo start width) =
      .ok w) : Outcome v c w := by
  split at became
  · rename_i full
    cases became
    exact .spread motion full
  · rename_i short
    obtain ⟨zoom, placed, rfl⟩ := zoomedTo_eq_ok became
    exact .move motion (Bool.not_eq_true _ ▸ short) (within_of_place placed)

theorem zoomTo_outcome {v w : Viewport} {window : Window} (became : v.zoomTo window = .ok w) :
    Outcome v (.zoomTo window) w := by
  unfold zoomTo at became
  dsimp only at became
  split at became
  · cases became
    exact .clear (.inr ⟨window, rfl⟩)
  · obtain ⟨zoom, placed, rfl⟩ := zoomedTo_eq_ok became
    exact .choose (within_of_place placed)

theorem dragTo_outcome {v w : Viewport} {x chartWidth : Binary64}
    (became : v.dragTo x chartWidth = .ok w) : Outcome v (.dragTo x chartWidth) w := by
  unfold dragTo at became
  split at became
  · cases became
    exact .stay (.inr ⟨x, chartWidth, rfl⟩)
  · split at became
    · cases became
      exact .stay (.inr ⟨x, chartWidth, rfl⟩)
    · obtain ⟨zoom, placed, rfl⟩ := zoomedTo_eq_ok became
      exact .move rfl rfl (within_of_place placed)

theorem setFull_outcome (v : Viewport) (full : Window) :
    Outcome v (.setFull full) (v.setFull full) := by
  obtain ⟨old, zoom, drag⟩ := v
  cases zoom with
  | none => exact .extend (by simp)
  | some zoom =>
    simp only [setFull]
    split
    · exact .outgrow
    · rename_i inside
      refine .extend fun _ same => ?_
      cases same
      simp only [not_or, Millis.lt_iff] at inside
      exact ⟨Int.not_lt.mp inside.1, Int.not_lt.mp inside.2⟩

/-- A change that has a result comes to one of the outcomes. -/
theorem change_outcome {v w : Viewport} {c : Change} (became : v.change c = .ok w) :
    Outcome v c w := by
  cases c with
  | zoomIn =>
    obtain ⟨zoom, placed, rfl⟩ := zoomedTo_eq_ok became
    exact .move rfl rfl (within_of_place placed)
  | zoomOut => exact scaled_outcome rfl became
  | zoomTo window => exact zoomTo_outcome became
  | wheel direction cursor => exact scaled_outcome rfl became
  | startDrag x =>
    cases became
    obtain ⟨full, zoom, drag⟩ := v
    cases zoom with
    | none => exact .stay (.inl ⟨x, rfl, rfl⟩)
    | some zoom => exact .begin rfl
  | dragTo x chartWidth => exact dragTo_outcome became
  | endDrag =>
    cases became
    exact .release
  | reset =>
    cases became
    exact .clear (.inl rfl)
  | setFull full =>
    cases became
    exact setFull_outcome v full

/-- Only a new extent changes the extent. -/
theorem Outcome.full_eq {v w : Viewport} {c : Change} (outcome : Outcome v c w)
    (kept : ∀ full, c ≠ .setFull full) : w.full = v.full := by
  cases outcome with
  | extend => exact absurd rfl (kept _)
  | outgrow => exact absurd rfl (kept _)
  | move | spread | choose | clear | begin | release | stay => rfl

theorem setFull_full (v : Viewport) (full : Window) : (v.setFull full).full = full := by
  unfold setFull
  dsimp only
  split
  · split <;> rfl
  · rfl

theorem startDrag_current (v : Viewport) (x : Binary64) : (v.startDrag x).current = v.current := by
  unfold startDrag
  split <;> rfl

/-! ## One change after another -/

/-- The viewport after some changes, if all of them have a result. -/
def changes (v : Viewport) (cs : List Change) : Except ArithmeticFault Viewport :=
  cs.foldlM change v

theorem changes_nil (v : Viewport) : v.changes [] = .ok v := rfl

theorem changes_cons {v w : Viewport} {c : Change} (became : v.change c = .ok w)
    (cs : List Change) : v.changes (c :: cs) = w.changes cs := by
  rw [changes, List.foldlM_cons, became]
  rfl

theorem changes_concat {v w : Viewport} {cs : List Change} (became : v.changes cs = .ok w)
    (c : Change) : v.changes (cs ++ [c]) = w.change c := by
  rw [changes, List.foldlM_append]
  change (v.changes cs).bind (fun u => u.changes [c]) = w.change c
  rw [became]
  exact bind_pure (w.change c)

/-- What each of some changes keeps, also by having a result, is kept by all of them. -/
theorem changes_keep {P : Viewport → Prop} {cs : List Change}
    (keeps : ∀ {v}, P v → ∀ c ∈ cs, ∃ w, v.change c = .ok w ∧ P w) {v : Viewport} (h : P v) :
    ∃ w, v.changes cs = .ok w ∧ P w := by
  induction cs generalizing v with
  | nil => exact ⟨v, rfl, h⟩
  | cons c cs ih =>
    obtain ⟨w, became, kept⟩ := keeps h c List.mem_cons_self
    rw [changes_cons became]
    exact ih (fun h c made => keeps h c (List.mem_cons_of_mem _ made)) kept

/-! ## Runs -/

/-- A change that was made, with the viewport before and after it. -/
structure Passage where
  before : Viewport
  change : Change
  after : Viewport
deriving DecidableEq

/-- What the full view of an extent becomes by some changes, the latest first. -/
inductive Run : Viewport → List Passage → Prop
  | start (full : Window) : Run (ofExtent full) []
  | change {v w : Viewport} {history : List Passage} (run : Run v history) (c : Change)
      (became : v.change c = .ok w) : Run w (⟨v, c, w⟩ :: history)

/-- Whether the full view of some extent can become this viewport. -/
def Reachable (v : Viewport) : Prop := ∃ history, Run v history

namespace Reachable

theorem start (full : Window) : Reachable (ofExtent full) := ⟨[], .start full⟩

theorem change {v w : Viewport} (reachable : Reachable v) {c : Change}
    (became : v.change c = .ok w) : Reachable w :=
  let ⟨_, run⟩ := reachable
  ⟨_, run.change c became⟩

theorem advance {v : Viewport} (reachable : Reachable v) (c : Change) :
    Reachable (v.advance c) := by
  unfold Viewport.advance
  cases became : v.change c with
  | error fault => exact reachable
  | ok w => exact reachable.change became

theorem advances {v : Viewport} (reachable : Reachable v) (cs : List Change) :
    Reachable (cs.foldl Viewport.advance v) := by
  induction cs generalizing v with
  | nil => exact reachable
  | cons c cs ih => exact ih (reachable.advance c)

/-- What holds of every full view and is kept by every change holds of every viewport that can
come about. -/
theorem induct {P : Viewport → Prop} (start : ∀ full, P (ofExtent full))
    (change : ∀ {v c w}, P v → Outcome v c w → P w) {v : Viewport} (reachable : Reachable v) :
    P v := by
  obtain ⟨history, run⟩ := reachable
  induction run with
  | start full => exact start full
  | change run c became ih => exact change ih (change_outcome became)

/-- A zoom lies inside of the full extent. -/
theorem zoom_within {v : Viewport} (reachable : Reachable v) :
    ∀ zoom, v.zoom = some zoom → zoom.Within v.full := by
  refine reachable.induct (P := fun v => ∀ zoom, v.zoom = some zoom → zoom.Within v.full)
    (fun full zoom none => by cases none) fun {v c w} inside outcome zoom zoomed => ?_
  cases outcome with
  | move _ _ within => cases zoomed; exact within
  | spread => cases zoomed
  | choose within => cases zoomed; exact within
  | clear => cases zoomed
  | begin => exact inside zoom zoomed
  | release => exact inside zoom zoomed
  | extend fits => exact fits zoom zoomed
  | outgrow => cases zoomed
  | stay => exact inside zoom zoomed

theorem current_within {v : Viewport} (reachable : Reachable v) : v.current.Within v.full := by
  unfold current
  cases zoomed : v.zoom with
  | none => exact .refl _
  | some zoom => exact reachable.zoom_within zoom zoomed

end Reachable

theorem current_of_not_zoomed {v : Viewport} (h : v.isZoomed = false) : v.current = v.full := by
  have none : v.zoom = none := by simpa [isZoomed] using h
  rw [current, none]
  rfl

/-! ## In line with an extent -/

/-- Whether a viewport has an extent, and its zoom lies inside of it. -/
structure InLine (v : Viewport) (full : Window) : Prop where
  full_eq : v.full = full
  zoom_within : ∀ zoom, v.zoom = some zoom → zoom.Within full

theorem setFull_inLine (v : Viewport) (full : Window) : (v.setFull full).InLine full := by
  have outcome := setFull_outcome v full
  refine ⟨setFull_full v full, ?_⟩
  generalize v.setFull full = w at outcome
  intro zoom zoomed
  cases outcome with
  | move motion => cases motion
  | spread motion => cases motion
  | clear chosen => rcases chosen with same | ⟨window, same⟩ <;> cases same
  | extend fits => exact fits zoom zoomed
  | outgrow => cases zoomed
  | stay idle => rcases idle with ⟨x, same, _⟩ | ⟨x, width, same⟩ <;> cases same

/-- A new extent that holds the zoom changes nothing but the extent. -/
theorem setFull_of_within {v : Viewport} {full : Window}
    (within : ∀ zoom, v.zoom = some zoom → zoom.Within full) :
    v.setFull full = { v with full } := by
  obtain ⟨old, zoom, drag⟩ := v
  cases zoom with
  | none => rfl
  | some zoom =>
    have inside : ¬ (zoom.start < full.start ∨ full.stop < zoom.stop) := by
      obtain ⟨starts, stops⟩ := within zoom rfl
      simp only [Millis.lt_iff, Millis.le_iff] at starts stops ⊢
      omega
    simp only [setFull, if_neg inside]

namespace InLine

variable {v w : Viewport} {full : Window}

/-- The same extent once more changes nothing. -/
theorem setFull_eq (h : v.InLine full) : v.setFull full = v := by
  rw [setFull_of_within h.zoom_within, ← h.full_eq]

/-- Only a new extent brings a viewport out of line. -/
theorem change (h : v.InLine full) {c : Change} (became : v.change c = .ok w)
    (kept : ∀ other, c ≠ .setFull other) : w.InLine full := by
  have outcome := change_outcome became
  refine ⟨(outcome.full_eq kept).trans h.full_eq, fun zoom zoomed => ?_⟩
  cases outcome with
  | move _ _ within => cases zoomed; exact h.full_eq ▸ within
  | spread => cases zoomed
  | choose within => cases zoomed; exact h.full_eq ▸ within
  | clear => cases zoomed
  | begin => exact h.zoom_within zoom zoomed
  | release => exact h.zoom_within zoom zoomed
  | extend => exact absurd rfl (kept _)
  | outgrow => exact absurd rfl (kept _)
  | stay => exact h.zoom_within zoom zoomed

theorem current_within (h : v.InLine full) : v.current.Within full := by
  unfold current
  cases zoomed : v.zoom with
  | none => rw [Option.getD_none, h.full_eq]; exact .refl full
  | some zoom => exact h.zoom_within zoom zoomed

end InLine

/-! ## A sample -/

/-- The first second of 1970. -/
def firstSecond : Window := ⟨.zero, ⟨1000, by decide, by decide⟩, by decide⟩

/-- Half of it, dragged beyond its end. -/
def panned : Viewport :=
  [.zoomIn, .startDrag (.finite 0), .dragTo (.finite (-500)) (.finite 100)].foldl advance
    (ofExtent firstSecond)

end Viewport

/-! ## Actions -/

namespace ViewportAction

/-- An action as a change of the viewport. -/
def toChange : ViewportAction → Viewport.Change
  | zoomIn => .zoomIn
  | zoomOut => .zoomOut
  | reset => .reset
  | wheel delta cursor => .wheel (Wheel.ofDelta delta) cursor
  | dragStart x => .startDrag x
  | dragMove x chartWidth => .dragTo x chartWidth
  | dragEnd => .endDrag
  | setWindow window => .zoomTo window

theorem apply_eq_change (v : Viewport) (action : ViewportAction) :
    action.apply v = v.change action.toChange := by
  cases action <;> rfl

/-- No action changes the extent. -/
theorem apply_full {v w : Viewport} {action : ViewportAction} (applied : action.apply v = .ok w) :
    w.full = v.full := by
  rw [apply_eq_change] at applied
  exact (Viewport.change_outcome applied).full_eq fun full same => by cases action <;> cases same

end ViewportAction

end HouseholdDashboard
