import HouseholdDashboard.Json.Reader
import HouseholdDashboard.Query
import HouseholdDashboard.Time.Instant

/-!
# The view

A view is a tab and a number of hours to look back, which is one of a menu.  It is
kept in the query string of the page: reading it from there falls back to the usual
view, and writing it there leaves every other parameter in place.
-/

namespace HouseholdDashboard

inductive Tab where
  | overview
  | solar
deriving DecidableEq

namespace Tab

def name : Tab → String
  | overview => "overview"
  | solar => "solar"

def ofName? : String → Option Tab
  | "overview" => some overview
  | "solar" => some solar
  | _ => none

end Tab

/-- A tab and the hours to look back. -/
structure View where
  tab : Tab := .overview
  hours : Nat := 12
deriving DecidableEq

/-- The parts of a view that a request sets. -/
structure ViewChange where
  tab : Option Tab := none
  hours : Option Nat := none
deriving DecidableEq

namespace View

/-- The hours to choose from. -/
def menu : List Nat := [1, 3, 6, 12, 24, 72, 168, 336]

/-- The hours that a text names, if they are on the menu. -/
def hours? (text : String) : Option Nat :=
  (Decimal.unsigned? text.toList).filter menu.contains

end View

namespace ViewChange

/-- Take over a parameter; a later one of the same key counts, also if it is invalid. -/
def follow (change : ViewChange) (p : Query.Parameter) : ViewChange :=
  match p.1 with
  | "tab" => { change with tab := Tab.ofName? p.2 }
  | "hours" => { change with hours := View.hours? p.2 }
  | _ => change

/-- What the parameters of a query set. -/
def ofQuery (query : String) : ViewChange :=
  (Query.parameters query).foldl follow {}

structure Slots where
  tab : Option (Option Tab) := none
  hours : Option (Option Nat) := none

open Json.Reader in
/-- What a document sets; the hours may be any number of 32 bits. -/
def read : Json.Reader ViewChange := fun d => do
  let step (s : Slots) (name : String) (d : Json.Draft) : Except Json.Misread Slots :=
    match name with
    | "tab" => return { s with tab := ← once s.tab (nullable (word Tab.ofName?)) d }
    | "hours" => return { s with hours := ← once s.hours (nullable (natBelow (Nat.pow 2 32))) d }
    | _ => do skip d; return s
  let (s, named) ← slots ["tab", "hours"] step {} d
  return ⟨← optional named s.tab, ← optional named s.hours⟩

end ViewChange

namespace View

/-- The view that a query names; what is missing or invalid is as usual. -/
def ofQuery (query : String) : View :=
  let change := ViewChange.ofQuery query
  let usual : View := {}
  ⟨change.tab.getD usual.tab, change.hours.getD usual.hours⟩

/-- The parameters that name a view. -/
def parameters (v : View) : List Query.Parameter :=
  [("tab", v.tab.name), ("hours", toString v.hours)]

/-- The query with its view replaced and every other parameter kept. -/
def persist (v : View) (query : String) : String :=
  let others := (Query.parameters query).filter fun p => p.1 ≠ "tab" && p.1 ≠ "hours"
  Query.render (others ++ v.parameters)

/-- The view with other hours, if they are on the menu. -/
def withHours? (v : View) (hours : Nat) : Option View :=
  if menu.contains hours then some { v with hours } else none

/-- The earliest time to look back to, if the calendar reaches it. -/
def since? (v : View) (now : Instant) : Option Instant :=
  now.subHours? v.hours

def toJson (v : View) : Json :=
  .object [("tab", .string v.tab.name), ("hours", .nat v.hours)]

end View

end HouseholdDashboard
