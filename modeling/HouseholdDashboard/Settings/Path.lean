import HouseholdDashboard.Fault
import HouseholdDashboard.Number.Decimal
import HouseholdDashboard.Settings.Setting
import HouseholdDashboard.Toml.Text

/-!
# Paths to settings

A path leads to a setting by names of tables and places in lists, such as
`alarm.zones[0]`.  Places from the end of a list are negative.  Whatever is on the way
of a path gives way to it: a table where it goes on by a name, a list where it goes on by
a place.
-/

namespace HouseholdDashboard.Setting

/-- A step of a path. -/
inductive Step where
  | name (name : String)
  | place (index : Int)
deriving DecidableEq

/-! ## Reading -/

/-- The place between brackets at the front of a text, behind the opening one. -/
def place? (cs : List Char) : Option (Int × List Char) :=
  let cs := cs.dropWhile Toml.isBlank
  let (negative, cs) := match cs with
    | '-' :: cs => (true, cs)
    | cs => (false, cs)
  let ds := cs.takeWhile Char.isDigit
  let n : Int := Decimal.ofDigits ds
  let index := if negative then -n else n
  match (cs.dropWhile Char.isDigit).dropWhile Toml.isBlank with
  | ']' :: rest =>
    if !ds.isEmpty ∧ -9223372036854775808 ≤ index ∧ index ≤ 9223372036854775807 then
      some (index, rest)
    else none
  | _ => none

/-- A name at the front of a text. -/
def name? (cs : List Char) : Option (Step × List Char) :=
  let word := cs.takeWhile Toml.isKeyChar
  if word.isEmpty then none
  else some (.name (String.ofList word), cs.dropWhile Toml.isKeyChar)

/-- The steps that follow the first name, of which there are at most `limit`. -/
def steps? : Nat → List Char → Option (List Step)
  | _, [] => some []
  | 0, _ => none
  | limit + 1, '.' :: cs => do
    let (step, rest) ← name? cs
    return step :: (← steps? limit rest)
  | limit + 1, '[' :: cs => do
    let (index, rest) ← place? cs
    return .place index :: (← steps? limit rest)
  | _, _ => none

/-- The path that a text describes. -/
def path? (cs : List Char) : Option (List Step) := do
  let (first, rest) ← name? cs
  return first :: (← steps? rest.length rest)

/-- The path that a name stands for; one that describes none stands for itself. -/
def path (name : String) : List Step :=
  (path? name.toList).getD [.name name]

/-! ## Following -/

/-- How long a list may become. -/
def listLength : Nat := Nat.pow 2 24

/-- A list that is long enough to have a place, and the place counted from its front.  Gaps come
in behind the last item, or before the first one. -/
def reach (index : Int) (items : List Setting) :
    Except ArithmeticFault (List Setting × Nat) :=
  let distance := index.natAbs
  if listLength ≤ distance then .error .overflow
  else if 0 ≤ index then
    .ok (items ++ List.replicate (distance + 1 - items.length) gap, distance)
  else .ok (List.replicate (distance - items.length) gap ++ items, items.length - distance)

/-- A setting with what a path leads to put under another one. -/
def put (v : Setting) : List Step → Setting → Except ArithmeticFault Setting
  | [], old => .ok (merge old v)
  | .name name :: rest, old => do
    let inner ← put v rest ((old.entries.lookup name).getD gap)
    return table (old.entries.put name inner)
  | .place index :: rest, old => do
    let (items, place) ← reach index old.items
    let inner ← put v rest (items[place]?.getD gap)
    return list (items.set place inner)

end HouseholdDashboard.Setting
