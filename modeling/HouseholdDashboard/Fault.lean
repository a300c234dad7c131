import HouseholdDashboard.Text.Quoted

/-!
# Faults

What can be wrong with the data that the dashboard is given, and the arithmetic
that has no result.
-/

namespace HouseholdDashboard

/-- Data that the dashboard cannot work with. -/
inductive DataFault where
  /-- A text that names no instant, on an event or a sample. -/
  | badTimestamp (source value : String)
  | unknownZone (name : String)
  /-- A window whose start is after its end. -/
  | invertedWindow (start stop : Int)
deriving DecidableEq

namespace DataFault

def message : DataFault → String
  | badTimestamp source value => s!"Invalid timestamp {Text.quote value} on {source}"
  | unknownZone name => s!"Unknown time zone: {name}"
  | invertedWindow start stop =>
    s!"Invalid time window: start {start} is after end {stop}"

end DataFault

/-- Arithmetic without a result, which ends the whole computation. -/
inductive ArithmeticFault where
  /-- A whole number of more than 64 bits. -/
  | overflow
  /-- An instant that the calendar does not reach. -/
  | calendar
  /-- A value to be kept between bounds that leave no room. -/
  | noRoom
deriving DecidableEq

end HouseholdDashboard
