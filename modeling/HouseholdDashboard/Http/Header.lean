/-!
# Headers

Of several headers with one name only the first counts, whichever case the names are
written in.  A value with anything but visible ASCII characters counts as absent.
-/

namespace HouseholdDashboard.Http

/-- Headers in the order in which they were sent. -/
abbrev Headers := List (String × String)

/-- Whether a character of a value can be read. -/
def isReadableChar (c : Char) : Bool :=
  c = '\t' || (0x20 ≤ c.toNat && c.toNat < 0x7f)

/-- The value of a header, if it can be read; the name is given in lower case. -/
def Headers.value? (h : Headers) (name : String) : Option String :=
  match h.find? fun (key, _) => key.toLower = name with
  | some (_, value) => if value.toList.all isReadableChar then some value else none
  | none => none

end HouseholdDashboard.Http
