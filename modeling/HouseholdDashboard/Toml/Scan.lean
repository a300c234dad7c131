/-!
# Scanning

A scanner takes something off the front of a text, or refuses the text.
-/

namespace HouseholdDashboard.Toml

abbrev Scan := StateT (List Char) Option

namespace Scan

/-- The characters at the front that are of a kind. -/
def takeWhile (kind : Char → Bool) : Scan (List Char) := fun cs =>
  some (cs.takeWhile kind, cs.dropWhile kind)

/-- The text that is left. -/
def left : Scan (List Char) := fun cs => some (cs, cs)

/-- The character at the front, which stays. -/
def peek? : Scan (Option Char) := fun cs => some (cs.head?, cs)

/-- Take a text off the front, if it is there. -/
def skip? (text : List Char) : Scan Bool := fun cs =>
  if text.isPrefixOf cs then some (true, cs.drop text.length) else some (false, cs)

/-- Take a character off the front, which must be there. -/
def char (c : Char) : Scan Unit := do
  if !(← skip? [c]) then failure

/-- The result of a scanner on a text that it takes as a whole. -/
def whole? (scan : Scan α) (cs : List Char) : Option α :=
  match scan cs with
  | some (a, []) => some a
  | _ => none

end Scan

/-! ## Blanks and comments -/

def isBlank (c : Char) : Bool := c = ' ' || c = '\t'

/-- The characters of comments and of strings on one line. -/
def isTextChar (c : Char) : Bool :=
  c = '\t' || (0x20 ≤ c.toNat && c.toNat ≠ 0x7f)

def blanks : Scan Unit := discard (Scan.takeWhile isBlank)

/-- The end of a line, if it is next. -/
def newline? : Scan Bool := do
  if ← Scan.skip? ['\n'] then return true
  Scan.skip? ['\r', '\n']

/-- Blanks and a comment. -/
def blanksAndComment : Scan Unit := do
  blanks
  if ← Scan.skip? ['#'] then discard (Scan.takeWhile isTextChar)

/-- Blank lines and comments, of which there are at most `limit` lines. -/
def emptyLines : Nat → Scan Unit
  | 0 => pure ()
  | limit + 1 => do
    blanksAndComment
    if ← newline? then emptyLines limit

/-- All blank lines and comments. -/
def allEmptyLines : Scan Unit := do
  emptyLines ((← Scan.left).length + 1)

end HouseholdDashboard.Toml
