import HouseholdDashboard.Backend.Fetch
import HouseholdDashboard.Gateway.Basic
import HouseholdDashboard.Settings.Basic
import HouseholdDashboard.Time.Zone.Registry

/-!
# Setting up the gateway

From settings to a gateway, and to the outside as it is reached through outgoing calls.
-/

namespace HouseholdDashboard

/-- The zone with a name, which must be a known one. -/
def Zone.named (name : String) : Except DataFault Zone :=
  match Zone.find? name with
  | some zone => .ok zone
  | none => .error (.unknownZone name)

/-- A gateway as it starts. -/
def Gateway.ofSettings (s : Settings) : Except DataFault Gateway := do
  let zone ← Zone.named s.display.zoneName
  let alarmZone ← Zone.named s.alarm.zoneName
  return ⟨Session.fresh {} zone s.tariff, alarmZone, s.display.location⟩

/-- The outside, given a clock, the addresses of the backend and of the house, and what carries
the calls to them. -/
def Outside.connected (now : σ → Instant) (backend : Backend.Endpoint) (house : Alarm.Webhook)
    (carry : Http.Carrier σ) : Outside σ where
  now := now
  fetch := backend.fetch carry
  fetchPaper := backend.fetchPaper carry
  sendAlarm := house.send carry

/-- The outside as the settings want it. -/
def Outside.ofSettings (s : Settings) (now : σ → Instant) (carry : Http.Carrier σ) : Outside σ :=
  connected now (.ofSettings s.backend.endpoint s.backend.token)
    ⟨s.alarm.webhookUrl, s.alarm.secret⟩ carry

end HouseholdDashboard
