import HouseholdDashboard.Time.Zone.Era
import HouseholdDashboard.Time.Zone.RuleTable
import HouseholdDashboard.Time.Zone.EraTable
import HouseholdDashboard.Time.Zone.AliasTable
import HouseholdDashboard.Number.Decimal

/-!
# The registry of zones

Looks a zone up by its exact name.  The tables are kept as text and read on demand.
-/

namespace HouseholdDashboard.Zone

/-! ## Reading the tables -/

/-- The words of a line. -/
def words (line : String) : List String :=
  (line.splitOn " ").filter (· ≠ "")

/-- The lines below a heading, each split into words. -/
def section? (table heading : String) : Option (List (List String)) :=
  if heading.isEmpty || heading.startsWith " " then none
  else
    match (table.splitOn "\n").dropWhile (· ≠ heading) with
    | [] => none
    | _ :: rest => some ((rest.takeWhile (·.startsWith " ")).map words)

/-- Hours, minutes and seconds as far as given, in seconds. -/
def seconds? (text : String) : Option Int :=
  let (negative, cs) := match text.toList with
    | '-' :: cs => (true, cs)
    | cs => (false, cs)
  let parts := (String.ofList cs).splitOn ":"
  (parts.mapM String.toNat?).map fun ns =>
    let total : Int := ns.getD 0 0 * 3600 + ns.getD 1 0 * 60 + ns.getD 2 0
    if negative then -total else total

/-- A time of day and the clock it is on. -/
def timeOfDay? (text : String) : Option (Int × Clock) :=
  let bare := String.ofList text.toList.dropLast
  match text.toList.getLast? with
  | some 's' => (seconds? bare).map (·, .standard)
  | some 'u' => (seconds? bare).map (·, .universal)
  | _ => (seconds? text).map (·, .wall)

def weekday? (text : String) : Option Nat :=
  ["Sun", "Mon", "Tue", "Wed", "Thu", "Fri", "Sat"].idxOf? text

def dayRule? (text : String) : Option DayRule :=
  if text.startsWith "last" then (weekday? (text.drop 4).toString).map .last
  else
    match text.splitOn ">=", text.splitOn "<=" with
    | [weekday, day], _ => do return .onOrAfter (← weekday? weekday) (← day.toNat?)
    | _, [weekday, day] => do return .onOrBefore (← weekday? weekday) (← day.toNat?)
    | _, _ => text.toNat?.map .exact

def rule? : List String → Option Rule
  | [first, last, month, day, time, saving] => do
    let firstYear ← first.toNat?
    let lastYear ←
      if last = "-" then some firstYear else if last = "*" then some 9999 else last.toNat?
    let (timeOfDay, clock) ← timeOfDay? time
    return ⟨firstYear, lastYear, ← month.toNat?, ← dayRule? day, timeOfDay, clock,
      ← seconds? saving⟩
  | _ => none

def saving? (text : String) : Option Saving :=
  if text = "-" then some (.fixed 0)
  else
    match section? ruleTable text with
    | some lines => (lines.mapM rule?).map .rules
    | none => (seconds? text).map .fixed

def era? : List String → Option Era
  | [standard, saving] => do return ⟨← seconds? standard, ← saving? saving, none⟩
  | [standard, saving, year, month, day, time] => do
    let (timeOfDay, clock) ← timeOfDay? time
    let date : Date := ⟨← year.toNat?, ← month.toNat?, ← day.toNat?⟩
    let ending : Moment := ⟨date.toDays * 86400 + timeOfDay, clock⟩
    return ⟨← seconds? standard, ← saving? saving, some ending⟩
  | _ => none

/-! ## Looking up -/

/-- The name under which the history of a zone is kept. -/
def historyName (name : String) : String :=
  let line := ((aliasTable.splitOn "\n").map words).find? fun names => (names.drop 1).contains name
  match line with
  | some (kept :: _) => kept
  | _ => name

/-- The zone with exactly this name. -/
def find? (name : String) : Option Zone := do
  let lines ← section? eraTable (historyName name)
  ofEras? name (← lines.mapM era?)

end HouseholdDashboard.Zone
