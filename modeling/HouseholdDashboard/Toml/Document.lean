import HouseholdDashboard.Toml.Scalar
import HouseholdDashboard.Toml.Text

/-!
# Documents

A document is a sequence of statements: a header that opens a table, a header that adds
a table to a list, or an entry of the table that is open.  No statement may define again
what another one has defined.

A node is a value together with how it came about, which decides what may still be
added to it.
-/

namespace HouseholdDashboard.Toml

/-! ## Statements -/

inductive Statement where
  /-- Open a table. -/
  | table (path : List String)
  /-- Add a table to a list and open it. -/
  | item (path : List String)
  /-- Give a value to a key of the open table. -/
  | entry (path : List String) (value : Value)

/-! ## Nodes -/

/-- How a table came about. -/
inductive Origin where
  /-- By a header of a table within it. -/
  | implied
  /-- By a key with points, which may have come after such a header. -/
  | dotted
  /-- By a header of its own. -/
  | header
deriving DecidableEq

inductive Node where
  | value (v : Value)
  | table (origin : Origin) (entries : List (String × Node))
  /-- Tables that were added one by one, the last first. -/
  | items (tables : List (List (String × Node)))

abbrev Nodes := List (String × Node)

namespace Nodes

/-- The nodes with the one of a name replaced, or added at the end. -/
def put (name : String) (node : Node) : Nodes → Nodes
  | [] => [(name, node)]
  | (key, old) :: rest =>
    if key = name then (key, node) :: rest else (key, old) :: put name node rest

/-- Give a value to a key, which must not have one.  Tables on its way come about by the key, unless
a header has opened them; a list of tables may only be passed through. -/
def enter (value : Value) : List String → Nodes → Option Nodes
  | [], _ => none
  | [name], nodes =>
    if (nodes.lookup name).isNone then some (nodes.put name (.value value)) else none
  | name :: rest, nodes =>
    match nodes.lookup name with
    | none => (enter value rest []).map fun inner => nodes.put name (.table .dotted inner)
    | some (.table origin inner) =>
      if origin = .header then none
      else (enter value rest inner).map fun inner => nodes.put name (.table .dotted inner)
    | some (.items (inner :: before)) =>
      if 1 < rest.length then
        (enter value rest inner).map fun inner => nodes.put name (.items (inner :: before))
      else none
    | some _ => none

/-- Change the table at a path, which headers may reach; tables on the way come about if need be. -/
def within (change : Nodes → Option Nodes) : List String → Nodes → Option Nodes
  | [], nodes => change nodes
  | name :: rest, nodes =>
    match nodes.lookup name with
    | none => (within change rest []).map fun inner => nodes.put name (.table .implied inner)
    | some (.table origin inner) =>
      (within change rest inner).map fun inner => nodes.put name (.table origin inner)
    | some (.items (inner :: before)) =>
      (within change rest inner).map fun inner => nodes.put name (.items (inner :: before))
    | some _ => none

/-- Open a table, which must be new or implied. -/
def openTable (name : String) (nodes : Nodes) : Option Nodes :=
  match nodes.lookup name with
  | none => some (nodes.put name (.table .header []))
  | some (.table .implied inner) => some (nodes.put name (.table .header inner))
  | some _ => none

/-- Add a table to a list, which must be new or a list of such tables. -/
def addItem (name : String) (nodes : Nodes) : Option Nodes :=
  match nodes.lookup name with
  | none => some (nodes.put name (.items [[]]))
  | some (.items tables) => some (nodes.put name (.items ([] :: tables)))
  | some _ => none

/-- Take in a statement; the path of the open table goes along. -/
def follow (state : List String × Nodes) (s : Statement) : Option (List String × Nodes) :=
  match s with
  | .table path => do
    return (path, ← within (openTable (path.getLast?.getD "")) path.dropLast state.2)
  | .item path => do
    return (path, ← within (addItem (path.getLast?.getD "")) path.dropLast state.2)
  | .entry path value => do
    return (state.1, ← within (enter value path) state.1 state.2)

end Nodes

mutual

/-- The value of a node. -/
def Node.toValue : Node → Value
  | .value v => v
  | .table _ entries => .table (entriesOf entries)
  | .items tables => .list (tablesOf tables).reverse

def entriesOf : List (String × Node) → Entries
  | [] => []
  | (name, node) :: rest => (name, node.toValue) :: entriesOf rest

def tablesOf : List (List (String × Node)) → List Value
  | [] => []
  | nodes :: rest => .table (entriesOf nodes) :: tablesOf rest

end

/-! ## Values -/

def isWordChar (c : Char) : Bool :=
  c.isAlphanum || c = '_' || c = '-' || c = '+' || c = '.' || c = ':'

/-- A word; a date and a time of day may stand one blank apart. -/
def word : Scan (List Char) := do
  let first ← Scan.takeWhile isWordChar
  match (← Scan.left) with
  | ' ' :: c :: _ =>
    match dateText? first with
    | some (_, []) =>
      if c.isDigit then
        Scan.char ' '
        return first ++ ' ' :: (← Scan.takeWhile isWordChar)
      else return first
    | _ => return first
  | _ => return first

/-- How many brackets may be open at once. -/
def nestingDepth : Nat := 80

mutual

/-- A value with at most `limit` parts, in which at most `room` brackets may be open at once. -/
def value : Nat → Nat → Scan Value
  | 0, _ => failure
  | limit + 1, room => do
    if let some s ← string? then return .text s
    if ← Scan.skip? ['['] then
      if room = 0 then failure
      return .list (← listItems limit (room - 1))
    if ← Scan.skip? ['\x7b'] then
      if room = 0 then failure
      return .table (entriesOf (← inlineEntries limit (room - 1) []))
    match scalar? (← word) with
    | some v => return v
    | none => failure

/-- The items of a list and its closing bracket; a comma may follow the last item. -/
def listItems : Nat → Nat → Scan (List Value)
  | 0, _ => failure
  | limit + 1, room => do
    allEmptyLines
    if ← Scan.skip? [']'] then return []
    let v ← value limit room
    allEmptyLines
    if ← Scan.skip? [','] then return v :: (← listItems limit room)
    Scan.char ']'
    return [v]

/-- The entries of a table in braces and the closing brace; a comma may follow the last entry, and
line ends may stand anywhere but within a key. -/
def inlineEntries : Nat → Nat → Nodes → Scan Nodes
  | 0, _, _ => failure
  | limit + 1, room, nodes => do
    allEmptyLines
    if ← Scan.skip? ['\x7d'] then return nodes
    let path ← key
    allEmptyLines
    Scan.char '='
    allEmptyLines
    let v ← value limit room
    allEmptyLines
    match nodes.enter v path with
    | none => failure
    | some nodes =>
      if ← Scan.skip? [','] then inlineEntries limit room nodes
      else
        Scan.char '\x7d'
        return nodes

end

/-! ## Lines -/

def statement : Scan Statement := do
  if ← Scan.skip? ['[', '['] then
    let path ← key
    Scan.char ']'
    Scan.char ']'
    return .item path
  if ← Scan.skip? ['['] then
    let path ← key
    Scan.char ']'
    return .table path
  let path ← key
  Scan.char '='
  blanks
  let limit := (← Scan.left).length + 1
  return .entry path (← value limit nestingDepth)

/-- The statements of a text, each on a line of its own, at most `limit` of them. -/
def statements : Nat → Scan (List Statement)
  | 0 => failure
  | limit + 1 => do
    allEmptyLines
    if (← Scan.left).isEmpty then return []
    let first ← statement
    blanksAndComment
    if ← newline? then return first :: (← statements limit)
    return [first]

/-- The table that a text describes; a mark of byte order may precede it. -/
def ofText? (text : String) : Option Entries := do
  let cs := match text.toList with
    | '\ufeff' :: cs => cs
    | cs => cs
  let all ← Scan.whole? (statements (cs.length + 1)) cs
  let (_, nodes) ← all.foldlM Nodes.follow ([], [])
  return entriesOf nodes

end HouseholdDashboard.Toml
