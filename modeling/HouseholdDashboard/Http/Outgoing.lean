import HouseholdDashboard.Json.Value
import HouseholdDashboard.Text.Utf8

/-!
# Outgoing calls

The gateway itself asks others by posting documents.  A call either gets a reply or
does not; what lies between is left to whoever carries the call, and to the state of the
world that it meets.
-/

namespace HouseholdDashboard.Http

/-- A document that is posted to an address. -/
structure Post where
  url : String
  /-- Header names in lower case, with their values. -/
  headers : List (String × String)
  body : Json

/-- What comes back. -/
structure Reply where
  status : Nat
  body : List UInt8
deriving DecidableEq

/-- Whether a character may stand in the value of a header. -/
def isHeaderChar (c : Char) : Bool :=
  c = '\t' || (0x20 ≤ c.toNat && c.toNat ≠ 0x7f)

/-- Whether every value of a call's headers may be sent. -/
def Post.sendable (p : Post) : Bool :=
  p.headers.all fun (_, value) => value.toList.all isHeaderChar

/-- What carries calls. -/
abbrev Carrier (σ : Type) := Post → σ → Option Reply × σ

/-- The reply to a call; one with a bad header is not sent at all. -/
def Post.exchange (p : Post) (carry : Carrier σ) (world : σ) : Option Reply × σ :=
  if p.sendable then carry p world else (none, world)

end HouseholdDashboard.Http
