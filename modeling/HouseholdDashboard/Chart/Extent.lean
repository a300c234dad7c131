import HouseholdDashboard.Chart.Window

/-!
# The extent of the data

The chart's full extent reaches a twentieth of the data's span beyond the first and
the last time, and at least a millisecond.  Without any data it is the last day.
-/

namespace HouseholdDashboard.Extent

/-- A day in milliseconds. -/
def day : Millis := ⟨86400000, by decide, by decide⟩

/-- The part of the span that is added on either side. -/
def margin : Binary64 := .ofRat (5 / 100)

/-- What is added on either side of data that spans a length. -/
def padding (span : Millis) : Millis :=
  .ofBinary64 ((span.toBinary64 * margin).ceil.max (.finite 1))

/-- The full extent for the times of marks and samples, seen at a moment. -/
def ofTimes (marks samples : List Millis) (now : Millis) : Window :=
  match marks ++ samples with
  | [] => .spanning (now.subSaturating day) now
  | first :: rest =>
    let low := rest.foldl min first
    let high := rest.foldl max first
    let pad := padding (high.subSaturating low)
    .spanning (low.subSaturating pad) (high.addSaturating pad)

end HouseholdDashboard.Extent
