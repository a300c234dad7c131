import HouseholdDashboard.Energy
import HouseholdDashboard.Settings.Convert
import HouseholdDashboard.Settings.Overlay
import HouseholdDashboard.Toml.Document

/-!
# Settings

What the gateway is told before it starts.  Settings stand in sections; a section may
be a table, or a list of its fields in their order.  What is not set is as usual, but
the backend and the house must be known, and a section for the server or the display
must be whole if it is there at all.
-/

namespace HouseholdDashboard

/-- Where the gateway listens. -/
structure ServerSettings where
  bind : String := "0.0.0.0:8080"
deriving DecidableEq

/-- How the backend is reached. -/
structure BackendSettings where
  endpoint : String
  token : Option String := none
  timeoutSecs : Nat := 30
deriving DecidableEq

/-- Where the dashboard and the paper display hang. -/
structure DisplaySettings where
  zoneName : String := "Australia/Perth"
  location : String := "perth"
deriving DecidableEq

/-- Where alarms are passed on to. -/
structure AlarmSettings where
  webhookUrl : String
  secret : String
  zoneName : String := "Australia/Perth"
  timeoutSecs : Nat := 30
deriving DecidableEq

structure Settings where
  server : ServerSettings := {}
  backend : BackendSettings
  display : DisplaySettings := {}
  alarm : AlarmSettings
  tariff : Tariff := {}
deriving DecidableEq

namespace Settings

/-! ## Sections -/

/-- A section: its fields by name, or in their order. -/
inductive Section where
  | named (entries : Setting.Entries)
  | ordered (items : List Setting)

namespace Section

def ofSetting? : Setting → Option Section
  | .table entries => some (.named entries)
  | .list items => some (.ordered items)
  | _ => none

/-- The field with a name and a place. -/
def field? (s : Section) (name : String) (place : Nat) : Option Setting :=
  match s with
  | named entries => entries.lookup name
  | ordered items => items[place]?

/-- A field that must be there. -/
def required (s : Section) (name : String) (place : Nat) (convert? : Setting → Option α) :
    Option α :=
  (s.field? name place).bind convert?

/-- A field that may be left out. -/
def optional (s : Section) (name : String) (place : Nat) (convert? : Setting → Option α)
    (usual : α) : Option α :=
  match s.field? name place with
  | some v => convert? v
  | none => some usual

end Section

def server? (s : Section) : Option ServerSettings := do
  return ⟨← s.required "bind" 0 text?⟩

/-- A text that may be missing; a gap in a list stands for one that is. -/
def token? : Setting → Option (Option String)
  | .gap => some none
  | v => (text? v).map some

def backend? (s : Section) : Option BackendSettings := do
  let endpoint ← s.required "endpoint" 0 text?
  let usual : BackendSettings := { endpoint }
  return ⟨endpoint, ← s.optional "token" 1 token? usual.token,
    ← s.optional "timeout_secs" 2 nat? usual.timeoutSecs⟩

def display? (s : Section) : Option DisplaySettings := do
  return ⟨← s.required "timezone" 0 text?, ← s.required "location" 1 text?⟩

def alarm? (s : Section) : Option AlarmSettings := do
  let webhookUrl ← s.required "webhook_url" 0 text?
  let secret ← s.required "secret" 1 text?
  let usual : AlarmSettings := { webhookUrl, secret }
  return ⟨webhookUrl, secret, ← s.optional "timezone" 2 text? usual.zoneName,
    ← s.optional "timeout_secs" 3 nat? usual.timeoutSecs⟩

/-- An hour of a tariff, which has 32 bits. -/
def hour? (v : Setting) : Option Nat := (nat? v).filter (· < Nat.pow 2 32)

def tariff? (s : Section) : Option Tariff := do
  let usual : Tariff := {}
  return ⟨← s.optional "cost_per_kwh" 0 float? usual.costPerKwh,
    ← s.optional "feed_in_peak_rate" 1 float? usual.peakRate,
    ← s.optional "feed_in_offpeak_rate" 2 float? usual.offPeakRate,
    ← s.optional "peak_start_hour" 3 hour? usual.peakStart,
    ← s.optional "peak_end_hour" 4 hour? usual.peakEnd⟩

/-! ## All settings -/

/-- A section that must be there. -/
def needed (entries : Setting.Entries) (name : String) (read? : Section → Option α) : Option α :=
  (entries.lookup name).bind fun v => (Section.ofSetting? v).bind read?

/-- A section that may be left out as a whole. -/
def spared (entries : Setting.Entries) (name : String) (read? : Section → Option α) (usual : α) :
    Option α :=
  match entries.lookup name with
  | some v => (Section.ofSetting? v).bind read?
  | none => some usual

/-- The settings that some entries describe; unknown ones are no matter. -/
def ofEntries? (entries : Setting.Entries) : Option Settings := do
  return ⟨← spared entries "server" server? {}, ← needed entries "graphql" backend?,
    ← spared entries "display" display? {}, ← needed entries "alarm" alarm?,
    ← spared entries "tariff" tariff? {}⟩

/-- The entries of a document; a mark of byte order may precede its text. -/
def ofDocument? (text : String) : Option Setting.Entries :=
  let cs := match text.toList with
    | '\ufeff' :: cs => cs
    | cs => cs
  (Toml.ofText? (String.ofList cs)).map Setting.ofNamed

/-- The settings of a document, which must exist, and of the environment, if they are complete. -/
def load (document : Option String) (environment : List (String × String)) :
    Except ArithmeticFault (Option Settings) := do
  match document.bind ofDocument? with
  | none => return none
  | some entries =>
    let all ← overlay (ofEnvironment environment) (← overlay entries (.table []))
    return ofEntries? all.entries

end Settings

end HouseholdDashboard
