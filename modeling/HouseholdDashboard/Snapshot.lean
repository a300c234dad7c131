import HouseholdDashboard.Energy
import HouseholdDashboard.Event
import HouseholdDashboard.Room
import HouseholdDashboard.Solar

/-!
# Snapshots

What one fetch from the backend returns: for the dashboard, and for a display of
electronic paper.
-/

namespace HouseholdDashboard

/-- Everything the dashboard shows. -/
structure Snapshot where
  doors : List Event := []
  appliances : List Event := []
  wifi : List Event := []
  solarHistory : List SolarSample := []
  solarCurrent : SolarCurrent := {}
  rooms : List Room := []
  energyHistory : List EnergySample := []
deriving DecidableEq

/-- A day of a weather forecast. -/
structure ForecastDay where
  dateTime : String
  code : Option Millis := none
  description : Option String := none
  emoji : Option String := none
  min : Option Float := none
  max : Option Float := none
  uv : Option Float := none
deriving DecidableEq

namespace ForecastDay

structure Slots where
  dateTime : Option String := none
  code : Option (Option Millis) := none
  description : Option (Option String) := none
  emoji : Option (Option String) := none
  min : Option (Option Float) := none
  max : Option (Option Float) := none
  uv : Option (Option Float) := none

open Json.Reader in
def read : Json.Reader ForecastDay := fun d => do
  let step (s : Slots) (name : String) (d : Json.Draft) : Except Json.Misread Slots :=
    match name with
    | "dateTime" => return { s with dateTime := ← once s.dateTime string d }
    | "code" => return { s with code := ← once s.code (nullable millis) d }
    | "description" => return { s with description := ← once s.description (nullable string) d }
    | "emoji" => return { s with emoji := ← once s.emoji (nullable string) d }
    | "min" => return { s with min := ← once s.min (nullable float) d }
    | "max" => return { s with max := ← once s.max (nullable float) d }
    | "uv" => return { s with uv := ← once s.uv (nullable float) d }
    | _ => do skip d; return s
  let fields := ["dateTime", "code", "description", "emoji", "min", "max", "uv"]
  let (s, named) ← slots fields step {} d
  return ⟨← required s.dateTime, ← optional named s.code, ← optional named s.description,
    ← optional named s.emoji, ← optional named s.min, ← optional named s.max,
    ← optional named s.uv⟩

def toJson (d : ForecastDay) : Json :=
  .object [
    ("dateTime", .string d.dateTime),
    ("code", .option (fun n : Millis => .int n.count) d.code),
    ("description", .option .string d.description),
    ("emoji", .option .string d.emoji),
    ("min", .option .float d.min),
    ("max", .option .float d.max),
    ("uv", .option .float d.uv)]

end ForecastDay

/-- A product and its price. -/
structure Product where
  name : String
  price : Option Float := none
deriving DecidableEq

namespace Product

structure Slots where
  name : Option String := none
  price : Option (Option Float) := none

open Json.Reader in
def read : Json.Reader Product := fun d => do
  let step (s : Slots) (name : String) (d : Json.Draft) : Except Json.Misread Slots :=
    match name with
    | "name" => return { s with name := ← once s.name string d }
    | "price" => return { s with price := ← once s.price (nullable float) d }
    | _ => do skip d; return s
  let (s, named) ← slots ["name", "price"] step {} d
  return ⟨← required s.name, ← optional named s.price⟩

def toJson (p : Product) : Json :=
  .object [("name", .string p.name), ("price", .option .float p.price)]

end Product

/-- Everything the paper display shows. -/
structure PaperSnapshot where
  solarHistory : List SolarSample := []
  solarCurrent : SolarCurrent := {}
  forecast : List ForecastDay := []
  products : List Product := []
deriving DecidableEq

/-- What the paper display is sent. -/
structure PaperSummary where
  location : String
  solar : List SolarPoint
  solarCurrent : SolarCurrent
  forecast : List ForecastDay
  products : List Product
deriving DecidableEq

namespace PaperSummary

def ofSnapshot (zone : Zone) (location : String) (s : PaperSnapshot) : PaperSummary :=
  ⟨location, SolarPoint.ofHistory zone s.solarHistory, s.solarCurrent, s.forecast, s.products⟩

def toJson (s : PaperSummary) : Json :=
  .object [
    ("location", .string s.location),
    ("solar", .array (s.solar.map SolarPoint.toJson)),
    ("solarCurrent", s.solarCurrent.toJson),
    ("forecast", .array (s.forecast.map ForecastDay.toJson)),
    ("products", .array (s.products.map Product.toJson))]

end PaperSummary

end HouseholdDashboard
