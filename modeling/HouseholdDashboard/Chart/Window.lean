import HouseholdDashboard.Fault
import HouseholdDashboard.Json.Reader

/-!
# Windows of time

A window is a closed interval of milliseconds.  Its start is never after its end.
-/

namespace HouseholdDashboard

/-- A closed interval of time. -/
structure Window where
  start : Millis
  stop : Millis
  start_le_stop : start ≤ stop
deriving DecidableEq

namespace Window

/-- The window with these edges, in this order. -/
def ofEdges (start stop : Millis) : Except DataFault Window :=
  if h : start ≤ stop then .ok ⟨start, stop, h⟩
  else .error (.invertedWindow start.count stop.count)

/-- The window with these edges, in either order. -/
def spanning (a b : Millis) : Window :=
  if h : a ≤ b then ⟨a, b, h⟩ else ⟨b, a, by simp only [Millis.le_iff] at h ⊢; omega⟩

/-- The length of a window, at most what 64 bits hold. -/
def width (w : Window) : Millis :=
  w.stop.subSaturating w.start

/-- The start and half the length, rounded down. -/
def midpoint (w : Window) : Millis :=
  ⟨w.start.count + w.width.count / 2,
    by
      have := w.start_le_stop; have := w.start.lower
      simp only [Millis.le_iff, width, Millis.subSaturating, Millis.saturate] at *; omega,
    by
      have := w.start_le_stop; have := w.stop.upper
      simp only [Millis.le_iff, width, Millis.subSaturating, Millis.saturate] at *; omega⟩

/-- Whether a time lies in a window; both edges do. -/
def contains (w : Window) (t : Millis) : Bool :=
  w.start ≤ t && t ≤ w.stop

theorem width_nonneg (w : Window) : 0 ≤ w.width.count := by
  have := w.start_le_stop
  simp only [Millis.le_iff, width, Millis.subSaturating, Millis.saturate] at *; omega

/-! ## As a document -/

def toJson (w : Window) : Json :=
  .object [("startMs", .int w.start.count), ("endMs", .int w.stop.count)]

/-- The edges of a window as far as they have been read. -/
structure Slots where
  start : Option Millis := none
  stop : Option Millis := none

/-- A record of both edges; an inverted one is no window. -/
def read : Json.Reader Window := fun d => do
  let step (s : Slots) (name : String) (d : Json.Draft) : Except Json.Misread Slots :=
    match name with
    | "startMs" => return { s with start := ← Json.Reader.once s.start Json.Reader.millis d }
    | "endMs" => return { s with stop := ← Json.Reader.once s.stop Json.Reader.millis d }
    | _ => do Json.Reader.skip d; return s
  let (s, _) ← Json.Reader.slots ["startMs", "endMs"] step {} d
  match ofEdges (← Json.Reader.required s.start) (← Json.Reader.required s.stop) with
  | .ok w => .ok w
  | .error _ => .error .mismatch

end Window

end HouseholdDashboard
