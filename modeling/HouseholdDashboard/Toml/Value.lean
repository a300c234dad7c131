/-!
# Values of a configuration

What a configuration says: scalars, lists, and tables of named values.
-/

namespace HouseholdDashboard.Toml

inductive Value where
  | text (s : String)
  | whole (n : Int)
  | real (x : Float)
  | flag (b : Bool)
  | list (items : List Value)
  /-- Named values, no name twice. -/
  | table (entries : List (String × Value))

/-- Named values in the order in which they came up. -/
abbrev Entries := List (String × Value)

end HouseholdDashboard.Toml
