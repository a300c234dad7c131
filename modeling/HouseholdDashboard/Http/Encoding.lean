import HouseholdDashboard.Http.Header
import HouseholdDashboard.Text.Blank
import HouseholdDashboard.Text.Split

/-!
# Content encoding

A response is compressed with Brotli if the client names it.  Any name that begins
with `br` counts, in lower case, and its weight does not.
-/

namespace HouseholdDashboard.Http

/-- Whether a name in a list of encodings stands for Brotli. -/
def namesBrotli (cs : List Char) : Bool :=
  ['b', 'r'].isPrefixOf (Text.trim cs)

/-- Whether a client takes Brotli. -/
def Headers.acceptsBrotli (h : Headers) : Bool :=
  match h.value? "accept-encoding" with
  | some value => (Text.split ',' value.toList).any namesBrotli
  | none => false

end HouseholdDashboard.Http
