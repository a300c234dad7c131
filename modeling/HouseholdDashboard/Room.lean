import HouseholdDashboard.Json.Reader
import HouseholdDashboard.Text.Case

/-!
# Rooms

Each room of the house has a card with its climate.  Figures that are missing are
shown as zero.
-/

namespace HouseholdDashboard

/-- The climate of a room; every figure may be missing. -/
structure Climate where
  temperature : Option Float := none
  humidity : Option Float := none
  pressure : Option Float := none
deriving DecidableEq

namespace Climate

structure Slots where
  temperature : Option (Option Float) := none
  humidity : Option (Option Float) := none
  pressure : Option (Option Float) := none

open Json.Reader in
def read : Json.Reader Climate := fun d => do
  let step (s : Slots) (name : String) (d : Json.Draft) : Except Json.Misread Slots :=
    match name with
    | "temperature" => return { s with temperature := ← once s.temperature (nullable float) d }
    | "humidity" => return { s with humidity := ← once s.humidity (nullable float) d }
    | "pressure" => return { s with pressure := ← once s.pressure (nullable float) d }
    | _ => do skip d; return s
  let (s, named) ← slots ["temperature", "humidity", "pressure"] step {} d
  return ⟨← optional named s.temperature, ← optional named s.humidity,
    ← optional named s.pressure⟩

end Climate

/-- A room by the backend's key, with its climate if there is a reading. -/
structure Room where
  key : String
  climate : Option Climate
deriving DecidableEq

/-- What is shown of a room. -/
structure RoomCard where
  label : String
  temperature : Float
  humidity : Float
  pressure : Float
deriving DecidableEq

namespace RoomCard

/-- A key as a title: the first letter raised, a space before every other capital. -/
def title (key : String) : String :=
  match key.toList with
  | [] => ""
  | c :: rest =>
    let spread (c : Char) : List Char := if Text.isUppercase c then [' ', c] else [c]
    String.ofList (Text.raise c ++ rest.flatMap spread)

def ofRoom (room : Room) : RoomCard :=
  let climate := room.climate.getD {}
  ⟨title room.key, climate.temperature.getD 0, climate.humidity.getD 0, climate.pressure.getD 0⟩

def toJson (c : RoomCard) : Json :=
  .object [
    ("room", .string c.label),
    ("temperature", .float c.temperature),
    ("humidity", .float c.humidity),
    ("pressure", .float c.pressure)]

end RoomCard

end HouseholdDashboard
