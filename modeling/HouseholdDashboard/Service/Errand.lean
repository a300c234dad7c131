import HouseholdDashboard.Alarm
import HouseholdDashboard.Service.Outside
import HouseholdDashboard.View

/-!
# Errands

What is done for a caller without the session: a summary for the paper display, and
an alarm that is passed on.
-/

namespace HouseholdDashboard

/-- What was being done when a fetch for the paper display failed. -/
def PaperSummary.fetchingText (location : String) : String :=
  s!"Failed to fetch e-ink data for {location}"

/-- The summary for the paper display of what happened within some hours. -/
def PaperSummary.fetch (out : Outside σ) (zone : Zone) (location : String) (hours : Nat)
    (world : σ) : Run σ PaperSummary :=
  match (⟨.solar, hours⟩ : View).since? (out.now world) with
  | none => .crash world .calendar
  | some since =>
    let (outcome, world) := out.fetchPaper since location world
    let summary := match outcome with
      | .ok snapshot => .ok (PaperSummary.ofSnapshot zone location snapshot)
      | .error failure => .error (failure.within (fetchingText location))
    (Run.still world summary).after (.ofResult (.paper since location) outcome)

/-- Pass an alarm on, once; nothing is sent if its time lies beyond the calendar. -/
def Alarm.forward (out : Outside σ) (zone : Zone) (trigger : Millis) (world : σ) :
    Run σ Delivery :=
  match localTimeText zone trigger with
  | .error failure => .still world (.error failure)
  | .ok localTime =>
    let (outcome, world) := out.sendAlarm localTime world
    (Run.still world (outcome.map fun status => ⟨localTime, status⟩)).after
      (.ofResult (.alarm localTime) outcome)

end HouseholdDashboard
