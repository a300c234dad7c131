import HouseholdDashboard.Event
import HouseholdDashboard.Names
import HouseholdDashboard.Fault
import HouseholdDashboard.Time.Timestamp
import HouseholdDashboard.Time.Display

/-!
# The series of marks

The events of all devices become one series of marks in ascending order of time;
marks at the same time keep the order doors, appliances, WiFi, and within each the
order of the backend.  One time that cannot be read spoils the whole series, also
on an event whose state is unknown and which would not be drawn.
-/

namespace HouseholdDashboard

/-- A mark on the chart. -/
structure Mark where
  id : String
  device : String
  kind : Kind
  time : Millis
  display : String
deriving DecidableEq

namespace Mark

def category (m : Mark) : Category := m.kind.category

def toJson (m : Mark) : Json :=
  .object [
    ("id", .string m.id),
    ("deviceName", .string m.device),
    ("kind", .string m.kind.name),
    ("category", .string m.category.name),
    ("state", .string m.kind.word),
    ("timestampMs", .int m.time.count),
    ("displayTime", .string m.display),
    ("color", .string m.kind.colour),
    ("markerShape", .string m.category.marker.name),
    ("yLevel", .float m.category.lane)]

/-- The mark of an event; none for an unknown state. -/
def ofEvent (zone : Zone) (e : Event) : Except DataFault (Option Mark) :=
  match Timestamp.millis? e.time with
  | none => .error (.badTimestamp e.id e.time)
  | some time =>
    .ok (e.state.kind?.map fun kind => ⟨e.id, e.device, kind, time, Display.markTime zone time⟩)

end Mark

namespace Series

/-- The marks of some events, in their order. -/
def marks (zone : Zone) (events : List Event) : Except DataFault (List Mark) := do
  return (← events.mapM (Mark.ofEvent zone)).filterMap id

/-- The marks of all events in ascending order of time. -/
def ofEvents (zone : Zone) (doors appliances wifi : List Event) : Except DataFault (List Mark) := do
  return (← marks zone (doors ++ appliances ++ wifi)).mergeSort fun a b => a.time ≤ b.time

/-- How many marks are of a kind. -/
def count (marks : List Mark) (kind : Kind) : Nat :=
  marks.countP (·.kind = kind)

/-- The devices of a category. -/
def devices (marks : List Mark) (category : Category) : Names :=
  .ofList ((marks.filter (·.category = category)).map (·.device))

/-- The devices of all categories. -/
def allDevices (marks : List Mark) : Names :=
  .ofList (marks.map (·.device))

def countsToJson (marks : List Mark) : Json :=
  .object (Kind.all.map fun kind => (kind.name, .nat (count marks kind)))

end Series

def Names.toJson (s : Names) : Json :=
  .array (s.toList.map .string)

/-- The devices of each category. -/
structure DeviceLists where
  doors : Names
  appliances : Names
  wifi : Names
deriving DecidableEq

namespace DeviceLists

def ofMarks (marks : List Mark) : DeviceLists :=
  ⟨Series.devices marks .door, Series.devices marks .appliance, Series.devices marks .wifi⟩

def ofCategory (d : DeviceLists) : Category → Names
  | .door => d.doors
  | .appliance => d.appliances
  | .wifi => d.wifi

def toJson (d : DeviceLists) : Json :=
  .object [("doors", d.doors.toJson), ("appliances", d.appliances.toJson), ("wifi", d.wifi.toJson)]

end DeviceLists

end HouseholdDashboard
