import HouseholdDashboard.Time.Rfc3339
import HouseholdDashboard.Text.Blank

/-!
# Timestamps of the backend

The backend sends a time either as a decimal count of milliseconds or in the
RFC 3339 notation, with blanks around it.
-/

namespace HouseholdDashboard.Timestamp

/-- A complete decimal number with an optional sign, if it fits into 64 bits. -/
def decimal? (cs : List Char) : Option Millis :=
  let (negative, ds) :=
    match cs with
    | '-' :: rest => (true, rest)
    | '+' :: rest => (false, rest)
    | _ => (false, cs)
  if !ds.isEmpty && ds.all Char.isDigit then
    let n : Int := Decimal.ofDigits ds
    Millis.ofInt? (if negative then -n else n)
  else none

/-- The instant that a text names. -/
def instant? (raw : String) : Option Instant :=
  let cs := Text.trim raw.toList
  match decimal? cs with
  | some count => Instant.ofMillis? count.count
  | none => Rfc3339.instant? cs

/-- The milliseconds of the instant that a text names. -/
def millis? (raw : String) : Option Millis :=
  (instant? raw).map Instant.toMillis

end HouseholdDashboard.Timestamp
