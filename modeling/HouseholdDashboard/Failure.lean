import HouseholdDashboard.Backend.Fault
import HouseholdDashboard.Fault

/-!
# Failures of a request

A failure has a cause and what was being done when it happened.  Its text names the
doings from the outermost to the innermost and then the cause.
-/

namespace HouseholdDashboard

/-- Why a request fails. -/
inductive Cause where
  /-- Data that cannot be worked with. -/
  | data (fault : DataFault)
  /-- The time of an alarm lies beyond the calendar. -/
  | alarmTime (count : Int)
  /-- The backend gave no data. -/
  | backend (fault : Backend.Fault)
  /-- The house did not answer. -/
  | webhook
  /-- An outbound call failed, with a text of its own. -/
  | outbound (text : String)
deriving DecidableEq

def Cause.message : Cause → String
  | data fault => fault.message
  | alarmTime count => s!"Alarm time {count} is out of range"
  | backend fault => fault.message
  | webhook => "Failed to send alarm webhook"
  | outbound text => text

/-- A cause, and what was being done, the outermost first. -/
structure Failure where
  doing : List String
  cause : Cause
deriving DecidableEq

namespace Failure

def ofCause (cause : Cause) : Failure := ⟨[], cause⟩

def ofFault (fault : DataFault) : Failure := ⟨[], .data fault⟩

/-- The failure seen from further outside. -/
def within (f : Failure) (doing : String) : Failure := ⟨doing :: f.doing, f.cause⟩

/-- The texts from the outermost to the cause. -/
def chain (f : Failure) : List String := f.doing ++ [f.cause.message]

/-- The outermost text. -/
def summary (f : Failure) : String := f.doing.head?.getD f.cause.message

/-- All texts in one line. -/
def message (f : Failure) : String := ": ".intercalate f.chain

/-- Whether the data is at fault, and not the outside world. -/
def isData (f : Failure) : Bool :=
  match f.cause with
  | .data _ => true
  | _ => false

end Failure

end HouseholdDashboard
