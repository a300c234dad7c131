import HouseholdDashboard.Json.Reader
import HouseholdDashboard.Time.Display

/-!
# Solar production

The history of production becomes the points of a line chart.  What the panels do
at the moment is passed on as the backend reports it.
-/

namespace HouseholdDashboard

/-- A reading of what the panels produced. -/
structure SolarSample where
  time : Millis
  wattHours : Float
  uvLevel : Option Float
deriving DecidableEq

/-- A reading as a point of the line chart. -/
structure SolarPoint where
  time : Millis
  display : String
  wattHours : Float
  uvLevel : Option Float
deriving DecidableEq

namespace SolarPoint

def ofSample (zone : Zone) (s : SolarSample) : SolarPoint :=
  ⟨s.time, Display.markTime zone s.time, s.wattHours, s.uvLevel⟩

/-- The points of a history in ascending order of time, equal times in the order of the history. -/
def ofHistory (zone : Zone) (samples : List SolarSample) : List SolarPoint :=
  (samples.map (ofSample zone)).mergeSort fun a b => a.time ≤ b.time

def toJson (p : SolarPoint) : Json :=
  .object [
    ("timestampMs", .int p.time.count),
    ("displayTime", .string p.display),
    ("wh", .float p.wattHours),
    ("uvLevel", .option .float p.uvLevel)]

end SolarPoint

/-! ## Production at the moment -/

/-- Mean production in watts. -/
structure SolarAverages where
  last15Mins : Option Float := none
  last1Hour : Option Float := none
deriving DecidableEq

/-- What the panels produce; every figure may be missing. -/
structure SolarCurrent where
  todayKwh : Option Float := none
  yesterdayKwh : Option Float := none
  currentWh : Option Float := none
  uvLevel : Option Float := none
  averages : Option SolarAverages := none
deriving DecidableEq

namespace SolarAverages

structure Slots where
  last15Mins : Option (Option Float) := none
  last1Hour : Option (Option Float) := none

open Json.Reader in
def read : Json.Reader SolarAverages := fun d => do
  let step (s : Slots) (name : String) (d : Json.Draft) : Except Json.Misread Slots :=
    match name with
    | "last15Mins" => return { s with last15Mins := ← once s.last15Mins (nullable float) d }
    | "last1Hour" => return { s with last1Hour := ← once s.last1Hour (nullable float) d }
    | _ => do skip d; return s
  let (s, named) ← slots ["last15Mins", "last1Hour"] step {} d
  return ⟨← optional named s.last15Mins, ← optional named s.last1Hour⟩

def toJson (a : SolarAverages) : Json :=
  .object [
    ("last15Mins", .option .float a.last15Mins),
    ("last1Hour", .option .float a.last1Hour)]

end SolarAverages

namespace SolarCurrent

open Json.Reader in
/-- The averages, which stand in a record of their own. -/
def readStatistics : Json.Reader SolarAverages := fun d => do
  let step (s : Option SolarAverages) (name : String) (d : Json.Draft) :
      Except Json.Misread (Option SolarAverages) :=
    match name with
    | "averages" => once s SolarAverages.read d
    | _ => do skip d; return s
  let (s, _) ← slots ["averages"] step none d
  required s

structure Slots where
  todayKwh : Option (Option Float) := none
  yesterdayKwh : Option (Option Float) := none
  currentWh : Option (Option Float) := none
  uvLevel : Option (Option Float) := none
  averages : Option (Option SolarAverages) := none

open Json.Reader in
def read : Json.Reader SolarCurrent := fun d => do
  let step (s : Slots) (name : String) (d : Json.Draft) : Except Json.Misread Slots :=
    match name with
    | "todayProductionKwh" => return { s with todayKwh := ← once s.todayKwh (nullable float) d }
    | "yesterdayProductionKwh" =>
      return { s with yesterdayKwh := ← once s.yesterdayKwh (nullable float) d }
    | "currentProductionWh" =>
      return { s with currentWh := ← once s.currentWh (nullable float) d }
    | "uvLevel" => return { s with uvLevel := ← once s.uvLevel (nullable float) d }
    | "statistics" =>
      return { s with averages := ← once s.averages (nullable readStatistics) d }
    | _ => do skip d; return s
  let fields := ["todayProductionKwh", "yesterdayProductionKwh", "currentProductionWh",
    "uvLevel", "statistics"]
  let (s, named) ← slots fields step {} d
  return ⟨← optional named s.todayKwh, ← optional named s.yesterdayKwh,
    ← optional named s.currentWh, ← optional named s.uvLevel, ← optional named s.averages⟩

def toJson (c : SolarCurrent) : Json :=
  .object [
    ("todayProductionKwh", .option .float c.todayKwh),
    ("yesterdayProductionKwh", .option .float c.yesterdayKwh),
    ("currentProductionWh", .option .float c.currentWh),
    ("uvLevel", .option .float c.uvLevel),
    ("statistics", .option (fun a => .object [("averages", a.toJson)]) c.averages)]

end SolarCurrent

/-! ## Which lines are drawn -/

/-- A line of the solar chart. -/
inductive SolarLine where
  | solar
  | uv
deriving DecidableEq

def SolarLine.ofName? : String → Option SolarLine
  | "solar" => some .solar
  | "uv" => some .uv
  | _ => none

/-- Which lines are drawn. -/
structure LineFlags where
  solar : Bool := true
  uv : Bool := true
deriving DecidableEq

namespace LineFlags

def shows (f : LineFlags) : SolarLine → Bool
  | .solar => f.solar
  | .uv => f.uv

def set (f : LineFlags) (line : SolarLine) (visible : Bool) : LineFlags :=
  match line with
  | .solar => { f with solar := visible }
  | .uv => { f with uv := visible }

def toggle (f : LineFlags) (line : SolarLine) : LineFlags :=
  f.set line (!f.shows line)

/-- Whether any line is drawn. -/
def any (f : LineFlags) : Bool := f.solar || f.uv

def toJson (f : LineFlags) : Json :=
  .object [("solar", .bool f.solar), ("uv", .bool f.uv)]

end LineFlags

end HouseholdDashboard
