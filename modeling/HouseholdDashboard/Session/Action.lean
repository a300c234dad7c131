import HouseholdDashboard.Chart.Viewport
import HouseholdDashboard.Json.Tagged
import HouseholdDashboard.Visibility

/-!
# What a user does to the chart

Zooming and panning change the viewport; the other actions change what is shown.
Both are sent as documents whose tag names the action.
-/

namespace HouseholdDashboard

/-- An action on the viewport. -/
inductive ViewportAction where
  | zoomIn
  | zoomOut
  | reset
  | wheel (delta cursor : Binary64)
  | dragStart (x : Binary64)
  | dragMove (x chartWidth : Binary64)
  | dragEnd
  | setWindow (window : Window)
deriving DecidableEq

namespace ViewportAction

def names : List String :=
  ["zoomIn", "zoomOut", "reset", "wheel", "dragStart", "dragMove", "dragEnd", "setWindow"]

open Json.Reader in
def read : Json.Reader ViewportAction := fun d => do
  let number : Json.Reader Binary64 := fun d => (float d).map Binary64.ofFloat
  let (name, kept) ← tagged "action" names d
  let fields : Json.Reader ViewportAction := match name with
    | "zoomIn" => noFields zoomIn
    | "zoomOut" => noFields zoomOut
    | "reset" => noFields reset
    | "wheel" => twoFields "deltaY" "cursorFraction" number number wheel
    | "dragStart" => oneField "xPx" number dragStart
    | "dragMove" => twoFields "xPx" "chartWidthPx" number number dragMove
    | "dragEnd" => noFields dragEnd
    | _ => oneField "window" Window.read setWindow
  body fields kept

/-- The viewport after an action. -/
def apply (v : Viewport) : ViewportAction → Except ArithmeticFault Viewport
  | zoomIn => v.zoomIn
  | zoomOut => v.zoomOut
  | reset => .ok v.reset
  | wheel delta cursor => v.wheel (Wheel.ofDelta delta) cursor
  | dragStart x => .ok (v.startDrag x)
  | dragMove x chartWidth => v.dragTo x chartWidth
  | dragEnd => .ok v.endDrag
  | setWindow window => v.zoomTo window

/-- What an action has made of the viewport by the time its arithmetic turns out to have no result:
to choose a window ends the drag first, and the others have changed nothing yet. -/
def brokenOff (v : Viewport) : ViewportAction → Viewport
  | setWindow _ => v.endDrag
  | _ => v

end ViewportAction

/-- An action on what is shown. -/
inductive VisibilityAction where
  | toggleState (kind : Kind)
  | setState (kind : Kind) (visible : Bool)
  | toggleDevice (name : String)
  | selectDevices (names : List String)
  | selectAllDevices
  | clearDevices
  | selectCategory (category : Category)
  | clearCategory (category : Category)
  | toggleSeries (line : SolarLine)
  | setSeries (line : SolarLine) (visible : Bool)
deriving DecidableEq

namespace VisibilityAction

def names : List String :=
  ["toggleState", "setState", "toggleDevice", "selectDevices", "selectAllDevices", "clearDevices",
    "selectCategory", "clearCategory", "toggleSeries", "setSeries"]

open Json.Reader in
def read : Json.Reader VisibilityAction := fun d => do
  let kind := keptWord Kind.ofName?
  let category := keptWord Category.ofName?
  let line := keptWord SolarLine.ofName?
  let (name, kept) ← tagged "action" names d
  let fields : Json.Reader VisibilityAction := match name with
    | "toggleState" => oneField "kind" kind toggleState
    | "setState" => twoFields "kind" "visible" kind bool setState
    | "toggleDevice" => oneField "name" string toggleDevice
    | "selectDevices" => oneField "names" (list string) selectDevices
    | "selectAllDevices" => noFields selectAllDevices
    | "clearDevices" => noFields clearDevices
    | "selectCategory" => oneField "category" category selectCategory
    | "clearCategory" => oneField "category" category clearCategory
    | "toggleSeries" => oneField "series" line toggleSeries
    | _ => twoFields "series" "visible" line bool setSeries
  body fields kept

/-- What is shown after an action, given the marks of the chart. -/
def apply (v : Visibility) (marks : List Mark) : VisibilityAction → Visibility
  | toggleState kind => v.toggleKind kind
  | setState kind visible => v.setKind kind visible
  | toggleDevice name => v.toggleDevice name
  | selectDevices names => v.selectDevices names
  | selectAllDevices => v.selectDevices (Series.allDevices marks).toList
  | clearDevices => v.clearDevices
  | selectCategory category => v.addDevices ((DeviceLists.ofMarks marks).ofCategory category).toList
  | clearCategory category =>
    v.removeDevices ((DeviceLists.ofMarks marks).ofCategory category).toList
  | toggleSeries line => v.toggleLine line
  | setSeries line visible => v.setLine line visible

end VisibilityAction

end HouseholdDashboard
