import HouseholdDashboard.Toml.Value

/-!
# What is set

What has been gathered for the settings, from whatever source: scalars, lists and tables.
In a list that was filled place by place some places may have stayed empty.
-/

namespace HouseholdDashboard

inductive Setting where
  /-- A place that nothing has filled. -/
  | gap
  | text (s : String)
  | whole (n : Int)
  | real (x : Float)
  | flag (b : Bool)
  | list (items : List Setting)
  /-- Named settings, no name twice. -/
  | table (entries : List (String × Setting))

namespace Setting

/-- Named settings in the order in which they came up. -/
abbrev Entries := List (String × Setting)

/-- The entries of a table; anything else has none. -/
def entries : Setting → Entries
  | table entries => entries
  | _ => []

/-- The items of a list; anything else has none. -/
def items : Setting → List Setting
  | list items => items
  | _ => []

/-- The entries with the setting of a name replaced, or added at the end. -/
def Entries.put (name : String) (v : Setting) : Entries → Entries
  | [] => [(name, v)]
  | (key, old) :: rest => if key = name then (key, v) :: rest else (key, old) :: put name v rest

/-! ## From a document -/

mutual

/-- A value of a document as a setting. -/
def ofValue : Toml.Value → Setting
  | .text s => text s
  | .whole n => whole n
  | .real x => real x
  | .flag b => flag b
  | .list values => list (ofValues values)
  | .table values => table (ofNamed values)

def ofValues : List Toml.Value → List Setting
  | [] => []
  | v :: rest => ofValue v :: ofValues rest

def ofNamed : List (String × Toml.Value) → Entries
  | [] => []
  | (name, v) :: rest => (name, ofValue v) :: ofNamed rest

end

/-! ## One over another -/

mutual

/-- A setting over another one: tables are merged name by name, anything else replaces what was
there. -/
def merge (old : Setting) : Setting → Setting
  | table named => table (mergeEntries old.entries named)
  | v => v

/-- Entries over other ones. -/
def mergeEntries (old : Entries) : Entries → Entries
  | [] => old
  | (name, v) :: rest =>
    mergeEntries (old.put name (merge ((old.lookup name).getD gap) v)) rest

end

end Setting

end HouseholdDashboard
