import HouseholdDashboard.Chart.Window
import HouseholdDashboard.Time.Display

/-!
# Ticks of the time axis

Ticks stand at the multiples of a round interval, the smallest of nine that leaves
at most eight steps in the window, or a day if none does.
-/

namespace HouseholdDashboard.Ticks

def minute : Int := 60000

def hour : Int := 60 * minute

/-- The intervals to choose from, in ascending order. -/
def intervals : List Int :=
  [minute, 5 * minute, 15 * minute, 30 * minute, hour, 2 * hour, 6 * hour, 12 * hour, 24 * hour]

/-- The interval between the ticks of a window. -/
def interval (w : Window) : Int :=
  let eighth := w.width.toBinary64 / .ofInt 8
  (intervals.find? fun i => eighth.le (.ofInt i)).getD (24 * hour)

theorem interval_pos (w : Window) : 0 < interval w := by
  have positive : ∀ i ∈ intervals, 0 < i := by decide
  unfold interval
  dsimp only
  generalize h : intervals.find? _ = found
  cases found with
  | none => exact (by decide : (0 : Int) < 24 * hour)
  | some i => exact positive i (List.mem_of_find?_eq_some h)

/-- The times from one on in steps of an interval, up to a last one. -/
def climb (step : Int) (step_pos : 0 < step) (stop t : Millis) : List Millis :=
  if t ≤ stop then
    t :: match _h : t.add? step with
      | some next => climb step step_pos stop next
      | none => []
  else []
termination_by (stop.count + 1 - t.count).toNat
decreasing_by
  have := Millis.ofInt?_eq_some_iff.mp _h
  rename_i le
  have := Millis.le_iff.mp le
  omega

/-- The ticks of a window in ascending order. -/
def ofWindow (w : Window) : Except ArithmeticFault (List Millis) :=
  match Millis.ofInt? (w.start.count / interval w * interval w) with
  | none => .error .overflow
  | some below =>
    match if below < w.start then below.add? (interval w) else some below with
    | some first => .ok (climb (interval w) (interval_pos w) w.stop first)
    | none => .ok []

end HouseholdDashboard.Ticks

namespace HouseholdDashboard

/-- A tick and the text beside it. -/
structure Tick where
  time : Millis
  label : String
deriving DecidableEq

namespace Tick

/-- The ticks of a window with their texts. -/
def ofWindow (zone : Zone) (w : Window) : Except ArithmeticFault (List Tick) :=
  (Ticks.ofWindow w).map fun times => times.map fun t => ⟨t, Display.tickTime zone t⟩

def toJson (t : Tick) : Json :=
  .object [("timestampMs", .int t.time.count), ("label", .string t.label)]

end Tick

end HouseholdDashboard
