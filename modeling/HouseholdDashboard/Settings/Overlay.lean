import HouseholdDashboard.Settings.Path

/-!
# Settings from several sources

Settings come from a document and from the environment, and what comes later goes over
what was there.

The name of an entry is a path.  A variable of the environment names its path with two
underscores for every point, behind the word that all such variables begin with.
-/

namespace HouseholdDashboard.Settings

/-- Put one source over the others. -/
def overlay (source : Setting.Entries) (old : Setting) : Except ArithmeticFault Setting :=
  source.foldlM (fun old (name, v) => Setting.put v (Setting.path name) old) old

/-! ## The environment -/

/-- What the names of all variables begin with. -/
def variableHead : List Char := "gateway__".toList

/-- A letter in lower case, if that is a letter of ASCII; the Kelvin sign is the only other one. -/
def lowered (c : Char) : Char :=
  if c = '\u212a' then 'k' else c.toLower

/-- A text with a point for every two underscores. -/
def pointed : List Char → List Char
  | '_' :: '_' :: cs => '.' :: pointed cs
  | c :: cs => c :: pointed cs
  | [] => []

/-- The entry that a variable stands for, if it is one of the gateway's; case is no matter. -/
def entry? (v : String × String) : Option (String × Setting) :=
  let name := v.1.toList.map lowered
  if variableHead.isPrefixOf name then
    some (String.ofList (pointed (name.drop variableHead.length)), .text v.2)
  else none

/-- What the variables of the environment say. -/
def ofEnvironment (environment : List (String × String)) : Setting.Entries :=
  environment.filterMap entry?

end HouseholdDashboard.Settings
