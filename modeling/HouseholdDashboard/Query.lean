import HouseholdDashboard.Text.Percent
import HouseholdDashboard.Text.Split

/-!
# Query strings

A query string is a list of parameters, each a key and a value.
-/

namespace HouseholdDashboard.Query

/-- A key and its value. -/
abbrev Parameter := String × String

/-- A text with spaces for plus signs. -/
def spaced (cs : List Char) : String :=
  String.ofList (cs.map fun c => if c = '+' then ' ' else c)

/-- A key or a value as it is meant; what does not decode to text stays as written. -/
def decode (cs : List Char) : String :=
  (Text.Percent.decode? (spaced cs)).getD (spaced cs)

/-- A key and its value; without an equals sign the value is empty. -/
def parameter (cs : List Char) : Parameter :=
  let (key, value) := Text.splitFirst '=' cs
  (decode key, decode value)

/-- The parameters of a query, which may begin with question marks. -/
def parameters (query : String) : List Parameter :=
  let cs := query.toList.dropWhile (· = '?')
  ((Text.split '&' cs).filter fun part => !part.isEmpty).map parameter

/-- A key or a value of a form; what does not decode to text becomes replacement characters. -/
def decodeForm (cs : List Char) : String :=
  Text.Percent.decodeLossy (spaced cs)

/-- The fields of a form that was sent as a query. -/
def formFields (query : String) : List Parameter :=
  let parts := (Text.split '&' query.toList).filter fun part => !part.isEmpty
  parts.map fun part =>
    let (key, value) := Text.splitFirst '=' part
    (decodeForm key, decodeForm value)

/-- A parameter as it is written. -/
def renderParameter (p : Parameter) : List Char :=
  (Text.Percent.encode p.1).toList ++ '=' :: (Text.Percent.encode p.2).toList

/-- The query with these parameters. -/
def render (ps : List Parameter) : String :=
  String.ofList (Text.join '&' (ps.map renderParameter))

end HouseholdDashboard.Query
