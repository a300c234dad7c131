import HouseholdDashboard.Json.Reader
import HouseholdDashboard.Fault
import HouseholdDashboard.Time.Timestamp
import HouseholdDashboard.Time.Display

/-!
# Household energy

Metered consumption is summed by local calendar day, and priced by a tariff that
pays more for exported energy within its peak hours.  Sums run through the samples
in order, one rounding per step.
-/

namespace HouseholdDashboard

/-- What was used and exported over one interval. -/
structure EnergySample where
  id : String
  used : Float
  exported : Float
  /-- The time as the backend wrote it. -/
  time : String
deriving DecidableEq

namespace EnergySample

structure Slots where
  id : Option String := none
  used : Option Float := none
  exported : Option Float := none
  time : Option String := none

open Json.Reader in
def read : Json.Reader EnergySample := fun d => do
  let step (s : Slots) (name : String) (d : Json.Draft) : Except Json.Misread Slots :=
    match name with
    | "id" => return { s with id := ← once s.id string d }
    | "used" => return { s with used := ← once s.used float d }
    | "solarExported" => return { s with exported := ← once s.exported float d }
    | "time" => return { s with time := ← once s.time string d }
    | _ => do skip d; return s
  let (s, _) ← slots ["id", "used", "solarExported", "time"] step {} d
  return ⟨← required s.id, ← required s.used, ← required s.exported, ← required s.time⟩

/-- The local time of a sample. -/
def localTime (zone : Zone) (s : EnergySample) : Except DataFault LocalTime :=
  match Timestamp.instant? s.time with
  | some t => .ok (zone.localTime t)
  | none => .error (.badTimestamp s.id s.time)

end EnergySample

/-! ## Daily totals -/

/-- What was used and exported on one day. -/
structure DayTotal where
  day : String
  used : Float
  exported : Float
deriving DecidableEq

namespace DayTotal

/-- Add a sample to the total of its day, a new one at the end if the day is new. -/
def add (day : String) (s : EnergySample) : List DayTotal → List DayTotal
  | [] => [⟨day, 0 + s.used, 0 + s.exported⟩]
  | t :: rest =>
    if t.day = day then ⟨t.day, t.used + s.used, t.exported + s.exported⟩ :: rest
    else t :: add day s rest

/-- The totals of all local days, in the order in which the days come up. -/
def ofSamples (zone : Zone) (samples : List EnergySample) : Except DataFault (List DayTotal) :=
  samples.foldlM (fun totals s => do
    let t ← s.localTime zone
    return add (Display.dayText t.date) s totals) []

def toJson (t : DayTotal) : Json :=
  .object [
    ("dayLabel", .string t.day),
    ("usedKwh", .float t.used),
    ("solarExportedKwh", .float t.exported)]

end DayTotal

/-! ## Tariff -/

/-- Prices per kilowatt hour, and the local hours of the higher feed-in rate. -/
structure Tariff where
  costPerKwh : Float := 0.323719
  peakRate : Float := 0.10
  offPeakRate : Float := 0.02
  /-- The first hour of the peak. -/
  peakStart : Nat := 15
  /-- The first hour after the peak. -/
  peakEnd : Nat := 21
deriving DecidableEq

namespace Tariff

/-- The price of everything used. -/
def cost (tariff : Tariff) (samples : List EnergySample) : Float :=
  samples.foldl (fun total s => total + s.used * tariff.costPerKwh) (-0.0)

/-- What is paid for exported energy in a local hour. -/
def feedInRate (tariff : Tariff) (hour : Nat) : Float :=
  if tariff.peakStart ≤ hour ∧ hour < tariff.peakEnd then tariff.peakRate else tariff.offPeakRate

/-- What is paid for everything exported. -/
def exportValue (tariff : Tariff) (zone : Zone) (samples : List EnergySample) :
    Except DataFault Float :=
  samples.foldlM (fun total s => do
    let t ← s.localTime zone
    return total + s.exported * tariff.feedInRate t.hour) 0

structure Slots where
  costPerKwh : Option Float := none
  peakRate : Option Float := none
  offPeakRate : Option Float := none
  peakStart : Option Nat := none
  peakEnd : Option Nat := none

/-- The tariff of what has been read; the rest as usual. -/
def Slots.fill (s : Slots) : Tariff :=
  let usual : Tariff := {}
  ⟨s.costPerKwh.getD usual.costPerKwh, s.peakRate.getD usual.peakRate,
    s.offPeakRate.getD usual.offPeakRate, s.peakStart.getD usual.peakStart,
    s.peakEnd.getD usual.peakEnd⟩

def fields : List String :=
  ["cost_per_kwh", "feed_in_peak_rate", "feed_in_offpeak_rate", "peak_start_hour", "peak_end_hour"]

open Json.Reader in
def read : Json.Reader Tariff := fun d => do
  let hour := natBelow (Nat.pow 2 32)
  let step (s : Slots) (name : String) (d : Json.Draft) : Except Json.Misread Slots :=
    match name with
    | "cost_per_kwh" => return { s with costPerKwh := ← once s.costPerKwh float d }
    | "feed_in_peak_rate" => return { s with peakRate := ← once s.peakRate float d }
    | "feed_in_offpeak_rate" => return { s with offPeakRate := ← once s.offPeakRate float d }
    | "peak_start_hour" => return { s with peakStart := ← once s.peakStart hour d }
    | "peak_end_hour" => return { s with peakEnd := ← once s.peakEnd hour d }
    | _ => do skip d; return s
  let (s, _) ← slots fields step {} d
  return s.fill

end Tariff

end HouseholdDashboard
