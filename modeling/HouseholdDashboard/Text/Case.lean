import HouseholdDashboard.Text.CaseTable

/-!
# Letter case

The property Uppercase and the full upper-case form of a character, which may be
several characters long.
-/

namespace HouseholdDashboard.Text

/-- Whether a character has the property Uppercase. -/
def isUppercase (c : Char) : Bool :=
  uppercaseRuns.any (·.contains c.toNat)

/-- The full upper-case form of a character. -/
def raise (c : Char) : List Char :=
  if c.toNat < 0x80 then [c.toUpper]
  else
    match raisedExpansions.find? (·.1 = c.toNat) with
    | some (_, codes) => codes.map Char.ofNat
    | none =>
      match raisedRuns.find? (·.1.contains c.toNat) with
      | some (_, distance) => [Char.ofNat (c.toNat + distance).toNat]
      | none => [c]

end HouseholdDashboard.Text
