import HouseholdDashboard.Chart.Window

/-!
# The viewport

The viewport shows the full extent or, zoomed, a window of it.  A zoomed viewport
can be dragged; every move is measured from where the drag began.  Positions are
binary64 numbers, and a window placed at such a position is rounded to whole
milliseconds and shifted to lie inside the full extent.
-/

namespace HouseholdDashboard

/-- Where a drag began: the pointer and the window at that moment. -/
structure Drag where
  x : Binary64
  window : Window
deriving DecidableEq

/-- What the chart shows of the full extent. -/
structure Viewport where
  full : Window
  zoom : Option Window
  drag : Option Drag
deriving DecidableEq

/-- Which way a wheel turns. -/
inductive Wheel where
  | closer
  | away
deriving DecidableEq

namespace Wheel

/-- The direction of a turn; positive turns move away. -/
def ofDelta (delta : Binary64) : Wheel :=
  if (Binary64.finite 0).lt delta then away else closer

/-- By how much the window grows. -/
def factor : Wheel → Binary64
  | closer => .ofRat (8 / 10)
  | away => .ofRat (12 / 10)

end Wheel

namespace Viewport

/-! ## What is shown -/

/-- The whole of an extent. -/
def ofExtent (full : Window) : Viewport := ⟨full, none, none⟩

def isZoomed (v : Viewport) : Bool := v.zoom.isSome

def isDragging (v : Viewport) : Bool := v.drag.isSome

/-- The window that is shown. -/
def current (v : Viewport) : Window := v.zoom.getD v.full

/-! ## Placing a window -/

/-- A whole number as a binary64 number. -/
def number (n : Int) : Binary64 := .ofInt n

/-- The length in whole milliseconds, at most that of the full extent. -/
def spanWidth (full : Window) (width : Binary64) : Millis :=
  .ofBinary64 (width.round.clamp (.finite 0) full.width.toBinary64)

/-- A window of a length near a start, shifted to lie inside the full extent. -/
def place (full : Window) (start width : Binary64) : Except ArithmeticFault Window :=
  let width := spanWidth full width
  match full.stop.sub? width.count with
  | none => .error .overflow
  | some latest =>
    if latest < full.start then .error .noRoom
    else
      let start := min (max (Millis.ofBinary64 start.round) full.start) latest
      match start.add? width.count with
      | none => .error .overflow
      | some stop => .ok (.spanning start stop)

/-- The viewport zoomed to a window placed in it. -/
def zoomedTo (v : Viewport) (start width : Binary64) : Except ArithmeticFault Viewport :=
  (place v.full start width).map fun w => { v with zoom := some w }

/-! ## Changes -/

/-- Show the full extent. -/
def reset (v : Viewport) : Viewport :=
  { v with zoom := none, drag := none }

/-- Take over a new extent; a zoom that no longer fits is given up. -/
def setFull (v : Viewport) (full : Window) : Viewport :=
  let v := { v with full }
  match v.zoom with
  | some zoom => if zoom.start < full.start ∨ full.stop < zoom.stop then v.reset else v
  | none => v

/-- Halve the window around its midpoint. -/
def zoomIn (v : Viewport) : Except ArithmeticFault Viewport :=
  let width := v.current.width.toBinary64 * .ofRat (1 / 2)
  v.zoomedTo (v.current.midpoint.toBinary64 - width / number 2) width

/-- Double the window around its midpoint, at most up to the full extent. -/
def zoomOut (v : Viewport) : Except ArithmeticFault Viewport :=
  let width := v.current.width.toBinary64 * number 2
  if v.full.width.toBinary64.le width then .ok { v with zoom := none }
  else v.zoomedTo (v.current.midpoint.toBinary64 - width / number 2) width

/-- Zoom to a chosen window, shifted inside the full extent. -/
def zoomTo (v : Viewport) (window : Window) : Except ArithmeticFault Viewport :=
  let v := { v with drag := none }
  if v.full.width ≤ window.width then .ok { v with zoom := none }
  else v.zoomedTo window.start.toBinary64 window.width.toBinary64

/-- The cursor's place in the window, from 0 to 1; the middle if it has none. -/
def cursorFraction (cursor : Binary64) : Binary64 :=
  if cursor.isFinite then cursor.clamp (.finite 0) (.finite 1) else .ofRat (1 / 2)

/-- Zoom around the cursor, at most out to the full extent. -/
def wheel (v : Viewport) (direction : Wheel) (cursor : Binary64) :
    Except ArithmeticFault Viewport :=
  let fraction := cursorFraction cursor
  let range := v.current.width.toBinary64
  let anchor := v.current.start.toBinary64 + range * fraction
  let width := range * direction.factor
  if v.full.width.toBinary64.le width then .ok { v with zoom := none }
  else v.zoomedTo (anchor - width * fraction) width

/-- Begin a drag; only a zoomed viewport can be dragged. -/
def startDrag (v : Viewport) (x : Binary64) : Viewport :=
  match v.zoom with
  | some window => { v with drag := some ⟨x, window⟩ }
  | none => v

/-- Move the window by what the pointer has moved since the drag began. -/
def dragTo (v : Viewport) (x chartWidth : Binary64) : Except ArithmeticFault Viewport :=
  match v.drag with
  | none => .ok v
  | some origin =>
    if v.zoom.isNone ∨ !(Binary64.finite 0).lt chartWidth then .ok v
    else
      let width := origin.window.width.toBinary64
      let delta := (x - origin.x) / chartWidth * width
      v.zoomedTo (origin.window.start.toBinary64 - delta) width

def endDrag (v : Viewport) : Viewport :=
  { v with drag := none }

end Viewport

end HouseholdDashboard
