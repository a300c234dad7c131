import HouseholdDashboard.Chart.Ticks
import HouseholdDashboard.Chart.Viewport
import HouseholdDashboard.Visibility

/-!
# Timelines

A timeline is everything the chart needs to draw itself: the window, the marks and
the solar points in it that are shown, and a legend that no filter and no zoom
affects.
-/

namespace HouseholdDashboard

/-- A chart that is ready to be drawn. -/
structure Timeline where
  window : Window
  fullExtent : Window
  zoomed : Bool
  dragging : Bool
  /-- Whether a newer fetch is under way. -/
  loading : Bool
  ticks : List Tick
  marks : List Mark
  solar : List SolarPoint
  lines : LineFlags
  /-- How many marks there are of each kind, hidden ones included. -/
  counts : List (Kind × Nat)
  devices : DeviceLists
  selected : Names
deriving DecidableEq

namespace Timeline

/-- The timeline of a viewport over all marks and all solar points. -/
def draw (zone : Zone) (viewport : Viewport) (shown : Visibility) (loading : Bool)
    (marks : List Mark) (points : List SolarPoint) : Except ArithmeticFault Timeline := do
  let window := viewport.current
  let ticks ← Tick.ofWindow zone window
  return {
    window
    fullExtent := viewport.full
    zoomed := viewport.isZoomed
    dragging := viewport.isDragging
    loading
    ticks
    marks := shown.marks window marks
    solar := shown.solar window points
    lines := shown.lines
    counts := Kind.all.map fun kind => (kind, Series.count marks kind)
    devices := .ofMarks marks
    selected := shown.devices }

def toJson (t : Timeline) : Json :=
  .object [
    ("window", t.window.toJson),
    ("fullExtent", t.fullExtent.toJson),
    ("zoomed", .bool t.zoomed),
    ("dragging", .bool t.dragging),
    ("loading", .bool t.loading),
    ("ticks", .array (t.ticks.map Tick.toJson)),
    ("events", .array (t.marks.map Mark.toJson)),
    ("solar", .array (t.solar.map SolarPoint.toJson)),
    ("series", t.lines.toJson),
    ("eventCounts", .object (t.counts.map fun (kind, n) => (kind.name, .nat n))),
    ("devices", t.devices.toJson),
    ("selectedDevices", t.selected.toJson)]

end Timeline

end HouseholdDashboard
