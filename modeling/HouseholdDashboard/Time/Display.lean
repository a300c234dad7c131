import HouseholdDashboard.Time.Rfc3339

/-!
# Times as the dashboard shows them

Marks show hours, minutes and seconds, the axis hours and minutes, both in the
zone of the display.  A time that the calendar does not reach has no such text.
-/

namespace HouseholdDashboard.Display

/-- What a zone's clocks show at a time, if the calendar reaches it. -/
def local? (zone : Zone) (t : Millis) : Option LocalTime :=
  (Instant.ofMillis? t.count).map zone.localTime

/-- The text at a mark. -/
def markTime (zone : Zone) (t : Millis) : String :=
  match local? zone t with
  | some shown => String.ofList (Rfc3339.clockText shown.secondOfDay)
  | none => "--:--:--"

/-- The text at a tick of the axis. -/
def tickTime (zone : Zone) (t : Millis) : String :=
  match local? zone t with
  | some shown =>
    String.ofList (Rfc3339.padded 2 shown.hour ++ ':' :: Rfc3339.padded 2 shown.minute)
  | none => ""

/-- A date with the day first. -/
def dayText (d : Date) : String :=
  String.ofList (Rfc3339.padded 2 d.day ++ '/' :: Rfc3339.padded 2 d.month ++
    '/' :: Rfc3339.yearText d.year)

end HouseholdDashboard.Display
