import HouseholdDashboard.Snapshot

/-!
# Replies of the backend

A reply holds data, errors or both.  Its lists may be left out, and so may whole
parts of the data.  A time is written as text or as a whole number of milliseconds;
either way it is kept as text until it is needed.

The data is first read as the backend words it, and then made into a snapshot: an
event's word for its state becomes the state that its sort of device means by it, the
rooms come into their fixed order, and the times of the solar history are read.
-/

namespace HouseholdDashboard.Backend

/-! ## Times -/

/-- A time as the backend writes it. -/
inductive WrittenTime where
  | text (s : String)
  /-- A count of milliseconds. -/
  | count (n : Millis)
deriving DecidableEq

namespace WrittenTime

/-- A time as text, whichever way it is written. -/
def shown : WrittenTime → String
  | text s => s
  | count n => toString n.count

def read : Json.Reader WrittenTime
  | .string (some s) => .ok (text s)
  | .number (some (.whole n)) =>
    match Millis.ofInt? n with
    | some m => .ok (count m)
    | none => .error .mismatch
  | d => .error (Json.Reader.refuse d)

end WrittenTime

/-! ## Events -/

/-- An event as the backend words it. -/
structure Report where
  id : String
  device : String
  time : WrittenTime
  /-- The word for the state. -/
  word : String
deriving DecidableEq

namespace Report

structure Slots where
  id : Option String := none
  device : Option String := none
  time : Option WrittenTime := none
  word : Option String := none

open Json.Reader in
def read : Json.Reader Report := fun d => do
  let step (s : Slots) (name : String) (d : Json.Draft) : Except Json.Misread Slots :=
    match name with
    | "id" => return { s with id := ← once s.id string d }
    | "name" => return { s with device := ← once s.device string d }
    | "time" => return { s with time := ← once s.time WrittenTime.read d }
    | "state" => return { s with word := ← once s.word (Json.Reader.word some) d }
    | _ => do skip d; return s
  let (s, _) ← slots ["id", "name", "time", "state"] step {} d
  return ⟨← required s.id, ← required s.device, ← required s.time, ← required s.word⟩

/-- The event that a device of a category reports. -/
def event (category : Category) (r : Report) : Event :=
  ⟨r.id, r.device, State.ofWord category r.word, r.time.shown⟩

end Report

/-- The events of all categories. -/
structure Events where
  doors : List Report := []
  appliances : List Report := []
  wifi : List Report := []
deriving DecidableEq

structure EventsSlots where
  doors : Option (List Report) := none
  appliances : Option (List Report) := none
  wifi : Option (List Report) := none

open Json.Reader in
def readEvents : Json.Reader Events := fun d => do
  let step (s : EventsSlots) (name : String) (d : Json.Draft) :
      Except Json.Misread EventsSlots :=
    match name with
    | "doors" => return { s with doors := ← once s.doors (list Report.read) d }
    | "appliances" => return { s with appliances := ← once s.appliances (list Report.read) d }
    | "wifi" => return { s with wifi := ← once s.wifi (list Report.read) d }
    | _ => do skip d; return s
  let (s, _) ← slots ["doors", "appliances", "wifi"] step {} d
  return ⟨s.doors.getD [], s.appliances.getD [], s.wifi.getD []⟩

/-! ## Rooms -/

/-- The climate of the rooms that the backend knows. -/
structure Climates where
  outdoor : Option Climate := none
  livingRoom : Option Climate := none
  bedroom : Option Climate := none
  laundry : Option Climate := none
deriving DecidableEq

namespace Climates

structure Slots where
  outdoor : Option (Option Climate) := none
  livingRoom : Option (Option Climate) := none
  bedroom : Option (Option Climate) := none
  laundry : Option (Option Climate) := none

open Json.Reader in
def read : Json.Reader Climates := fun d => do
  let climate := nullable Climate.read
  let step (s : Slots) (name : String) (d : Json.Draft) : Except Json.Misread Slots :=
    match name with
    | "outdoor" => return { s with outdoor := ← once s.outdoor climate d }
    | "livingRoom" => return { s with livingRoom := ← once s.livingRoom climate d }
    | "bedroom" => return { s with bedroom := ← once s.bedroom climate d }
    | "laundry" => return { s with laundry := ← once s.laundry climate d }
    | _ => do skip d; return s
  let (s, named) ← slots ["outdoor", "livingRoom", "bedroom", "laundry"] step {} d
  return ⟨← optional named s.outdoor, ← optional named s.livingRoom, ← optional named s.bedroom,
    ← optional named s.laundry⟩

/-- The rooms in their fixed order; there are none without any climate. -/
def rooms : Option Climates → List Room
  | none => []
  | some c => [
    ⟨"outdoor", c.outdoor⟩,
    ⟨"livingRoom", c.livingRoom⟩,
    ⟨"bedroom", c.bedroom⟩,
    ⟨"laundry", c.laundry⟩]

end Climates

/-! ## Solar production and energy -/

/-- A reading of the panels whose time has not been looked at. -/
structure SolarReading where
  wattHours : Float
  time : WrittenTime
  uvLevel : Option Float
deriving DecidableEq

namespace SolarReading

structure Slots where
  wattHours : Option Float := none
  time : Option WrittenTime := none
  uvLevel : Option (Option Float) := none

open Json.Reader in
def read : Json.Reader SolarReading := fun d => do
  let step (s : Slots) (name : String) (d : Json.Draft) : Except Json.Misread Slots :=
    match name with
    | "wh" => return { s with wattHours := ← once s.wattHours float d }
    | "timestamp" => return { s with time := ← once s.time WrittenTime.read d }
    | "uvLevel" => return { s with uvLevel := ← once s.uvLevel (nullable float) d }
    | _ => do skip d; return s
  let (s, named) ← slots ["wh", "timestamp", "uvLevel"] step {} d
  return ⟨← required s.wattHours, ← required s.time, ← optional named s.uvLevel⟩

/-- What a reading with a bad time is said to belong to. -/
def source : String := "solar.history"

/-- The sample of a reading. -/
def sample (r : SolarReading) : Except DataFault SolarSample :=
  match Timestamp.millis? r.time.shown with
  | some time => .ok ⟨time, r.wattHours, r.uvLevel⟩
  | none => .error (.badTimestamp source r.time.shown)

end SolarReading

/-- What the backend knows of the panels. -/
structure Solar where
  current : Option SolarCurrent := none
  history : List SolarReading := []
deriving DecidableEq

structure SolarSlots where
  current : Option (Option SolarCurrent) := none
  history : Option (List SolarReading) := none

open Json.Reader in
def readSolar : Json.Reader Solar := fun d => do
  let step (s : SolarSlots) (name : String) (d : Json.Draft) : Except Json.Misread SolarSlots :=
    match name with
    | "current" => return { s with current := ← once s.current (nullable SolarCurrent.read) d }
    | "history" => return { s with history := ← once s.history (list SolarReading.read) d }
    | _ => do skip d; return s
  let (s, named) ← slots ["current", "history"] step {} d
  return ⟨← optional named s.current, s.history.getD []⟩

open Json.Reader in
/-- A record with a single list that may be left out. -/
def readOnly (name : String) (read : Json.Reader α) : Json.Reader (List α) := fun d => do
  let step (s : Option (List α)) (key : String) (d : Json.Draft) :
      Except Json.Misread (Option (List α)) :=
    if key = name then once s (list read) d else do skip d; return s
  let (s, _) ← slots [name] step none d
  return s.getD []

/-! ## The data of a reply -/

/-- The data for the dashboard, as the backend words it. -/
structure DashboardData where
  events : Events
  climates : Option Climates
  solar : Option Solar
  energy : Option (List EnergySample)
deriving DecidableEq

namespace DashboardData

structure Slots where
  events : Option Events := none
  climates : Option (Option Climates) := none
  solar : Option (Option Solar) := none
  energy : Option (Option (List EnergySample)) := none

open Json.Reader in
def read : Json.Reader DashboardData := fun d => do
  let step (s : Slots) (name : String) (d : Json.Draft) : Except Json.Misread Slots :=
    match name with
    | "events" => return { s with events := ← once s.events readEvents d }
    | "environment" =>
      return { s with climates := ← once s.climates (nullable Climates.read) d }
    | "solar" => return { s with solar := ← once s.solar (nullable readSolar) d }
    | "energy" =>
      let read := nullable (readOnly "history" EnergySample.read)
      return { s with energy := ← once s.energy read d }
    | _ => do skip d; return s
  let (s, named) ← slots ["events", "environment", "solar", "energy"] step {} d
  return ⟨← required s.events, ← optional named s.climates, ← optional named s.solar,
    ← optional named s.energy⟩

/-- What is known of the panels; nothing, if that is left out. -/
def panels (d : DashboardData) : Solar := d.solar.getD {}

/-- The snapshot that the data gives; the first bad time of the solar history spoils it. -/
def snapshot (d : DashboardData) : Except DataFault Snapshot := do
  return {
    doors := d.events.doors.map (Report.event .door)
    appliances := d.events.appliances.map (Report.event .appliance)
    wifi := d.events.wifi.map (Report.event .wifi)
    solarHistory := ← d.panels.history.mapM SolarReading.sample
    solarCurrent := d.panels.current.getD {}
    rooms := Climates.rooms d.climates
    energyHistory := d.energy.getD [] }

end DashboardData

/-- The data for the paper display, as the backend words it. -/
structure PaperData where
  forecast : List ForecastDay
  products : List Product
  solar : Option Solar
deriving DecidableEq

namespace PaperData

open Json.Reader in
/-- The days of a forecast, which stand in a record of their own. -/
def readForecast : Json.Reader (List ForecastDay) := fun d => do
  let read := nullable (readOnly "days" ForecastDay.read)
  let step (s : Option (Option (List ForecastDay))) (name : String) (d : Json.Draft) :
      Except Json.Misread (Option (Option (List ForecastDay))) :=
    match name with
    | "forecast" => once s read d
    | _ => do skip d; return s
  let (s, named) ← slots ["forecast"] step none d
  return (← optional named s).getD []

structure Slots where
  forecast : Option (Option (List ForecastDay)) := none
  products : Option (Option (List Product)) := none
  solar : Option (Option Solar) := none

open Json.Reader in
def read : Json.Reader PaperData := fun d => do
  let step (s : Slots) (name : String) (d : Json.Draft) : Except Json.Misread Slots :=
    match name with
    | "weather" => return { s with forecast := ← once s.forecast (nullable readForecast) d }
    | "woolworths" =>
      let read := nullable (readOnly "products" Product.read)
      return { s with products := ← once s.products read d }
    | "solar" => return { s with solar := ← once s.solar (nullable readSolar) d }
    | _ => do skip d; return s
  let (s, named) ← slots ["weather", "woolworths", "solar"] step {} d
  return ⟨(← optional named s.forecast).getD [], (← optional named s.products).getD [],
    ← optional named s.solar⟩

/-- What is known of the panels; nothing, if that is left out. -/
def panels (d : PaperData) : Solar := d.solar.getD {}

def snapshot (d : PaperData) : Except DataFault PaperSnapshot := do
  return {
    solarHistory := ← d.panels.history.mapM SolarReading.sample
    solarCurrent := d.panels.current.getD {}
    forecast := d.forecast
    products := d.products }

end PaperData

/-! ## The reply as a whole -/

/-- A reply: data, and the texts of its errors. -/
structure Payload (α : Type) where
  data : Option α
  errors : List String
deriving DecidableEq

namespace Payload

open Json.Reader in
/-- The text of an error. -/
def readError : Json.Reader String := fun d => do
  let step (s : Option String) (name : String) (d : Json.Draft) :
      Except Json.Misread (Option String) :=
    match name with
    | "message" => once s string d
    | _ => do skip d; return s
  let (s, _) ← slots ["message"] step none d
  required s

structure Slots (α : Type) where
  data : Option (Option α) := none
  errors : Option (List String) := none

open Json.Reader in
def read (readData : Json.Reader α) : Json.Reader (Payload α) := fun d => do
  let step (s : Slots α) (name : String) (d : Json.Draft) : Except Json.Misread (Slots α) :=
    match name with
    | "data" => return { s with data := ← once s.data (nullable readData) d }
    | "errors" => return { s with errors := ← once s.errors (list readError) d }
    | _ => do skip d; return s
  let (s, named) ← slots ["data", "errors"] step {} d
  return ⟨← optional named s.data, s.errors.getD []⟩

end Payload

end HouseholdDashboard.Backend
