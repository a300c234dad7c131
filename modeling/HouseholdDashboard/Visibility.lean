import HouseholdDashboard.Series
import HouseholdDashboard.Solar
import HouseholdDashboard.Chart.Window

/-!
# What is shown

Every kind of event and every line of the solar chart can be hidden, and marks can
be limited to chosen devices.  While no device is chosen, all are shown.
-/

namespace HouseholdDashboard

/-- Which kinds of events are shown. -/
structure KindFlags where
  doorsOpen : Bool := true
  doorsClosed : Bool := true
  appliancesOn : Bool := true
  appliancesOff : Bool := true
  wifiConnected : Bool := true
  wifiDisconnected : Bool := true
deriving DecidableEq

namespace KindFlags

def shows (f : KindFlags) : Kind → Bool
  | .doorOpen => f.doorsOpen
  | .doorClosed => f.doorsClosed
  | .applianceOn => f.appliancesOn
  | .applianceOff => f.appliancesOff
  | .wifiConnected => f.wifiConnected
  | .wifiDisconnected => f.wifiDisconnected

def set (f : KindFlags) (kind : Kind) (visible : Bool) : KindFlags :=
  match kind with
  | .doorOpen => { f with doorsOpen := visible }
  | .doorClosed => { f with doorsClosed := visible }
  | .applianceOn => { f with appliancesOn := visible }
  | .applianceOff => { f with appliancesOff := visible }
  | .wifiConnected => { f with wifiConnected := visible }
  | .wifiDisconnected => { f with wifiDisconnected := visible }

def toggle (f : KindFlags) (kind : Kind) : KindFlags :=
  f.set kind (!f.shows kind)

def toJson (f : KindFlags) : Json :=
  .object [
    ("doorsOpen", .bool f.doorsOpen),
    ("doorsClosed", .bool f.doorsClosed),
    ("appliancesOn", .bool f.appliancesOn),
    ("appliancesOff", .bool f.appliancesOff),
    ("wifiConnected", .bool f.wifiConnected),
    ("wifiDisconnected", .bool f.wifiDisconnected)]

end KindFlags

/-- What is shown of the series. -/
structure Visibility where
  kinds : KindFlags := {}
  lines : LineFlags := {}
  /-- The chosen devices. -/
  devices : Names := .empty
deriving DecidableEq

namespace Visibility

/-! ## Changes -/

def toggleKind (v : Visibility) (kind : Kind) : Visibility :=
  { v with kinds := v.kinds.toggle kind }

def setKind (v : Visibility) (kind : Kind) (visible : Bool) : Visibility :=
  { v with kinds := v.kinds.set kind visible }

/-- Choose a device, or give it up if it is chosen. -/
def toggleDevice (v : Visibility) (name : String) : Visibility :=
  let devices :=
    if v.devices.contains name then v.devices.erase name else v.devices.insert name
  { v with devices }

/-- Choose exactly these devices. -/
def selectDevices (v : Visibility) (names : List String) : Visibility :=
  { v with devices := .ofList names }

def clearDevices (v : Visibility) : Visibility :=
  { v with devices := .empty }

/-- Choose these devices too. -/
def addDevices (v : Visibility) (names : List String) : Visibility :=
  { v with devices := v.devices.insertAll names }

/-- Give up these devices. -/
def removeDevices (v : Visibility) (names : List String) : Visibility :=
  { v with devices := v.devices.eraseAll names }

def toggleLine (v : Visibility) (line : SolarLine) : Visibility :=
  { v with lines := v.lines.toggle line }

def setLine (v : Visibility) (line : SolarLine) (visible : Bool) : Visibility :=
  { v with lines := v.lines.set line visible }

/-! ## What passes -/

def showsDevice (v : Visibility) (name : String) : Bool :=
  v.devices.isEmpty || v.devices.contains name

def passes (v : Visibility) (window : Window) (m : Mark) : Bool :=
  window.contains m.time && v.kinds.shows m.kind && v.showsDevice m.device

/-- The marks in a window that are shown, in their order. -/
def marks (v : Visibility) (window : Window) (marks : List Mark) : List Mark :=
  marks.filter (v.passes window)

/-- The solar points in a window; none once both lines are hidden. -/
def solar (v : Visibility) (window : Window) (points : List SolarPoint) : List SolarPoint :=
  if v.lines.any then points.filter fun p => window.contains p.time else []

def toJson (v : Visibility) : Json :=
  .object [
    ("states", v.kinds.toJson),
    ("series", v.lines.toJson),
    ("devices", v.devices.toJson)]

end Visibility

end HouseholdDashboard
