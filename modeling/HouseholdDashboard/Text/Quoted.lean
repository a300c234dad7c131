import HouseholdDashboard.Text.Unprintable
import HouseholdDashboard.Text.Extender

/-!
# Quoted text for messages

A value shown inside a message stands in double quotes.  The quote, the backslash
and the common controls have short escapes; any other character that cannot be
seen on its own is written by its number.
-/

namespace HouseholdDashboard.Text

/-- Whether a code point lies in one of the ranges. -/
def inRanges (ranges : Array (Nat × Nat)) (code : Nat) : Bool :=
  ranges.any fun (first, last) => first ≤ code && code ≤ last

/-- Whether a character joins its neighbour or cannot be printed. -/
def isInvisible (c : Char) : Bool :=
  0x7e < c.toNat && (inRanges extenderRanges c.toNat || inRanges unprintableRanges c.toNat)
    || c.toNat < 0x20 || c.toNat = 0x7f

/-- A number in lower-case hexadecimal without leading zeros. -/
def hexDigits (n : Nat) : List Char :=
  Nat.toDigits 16 n

/-- One character as it stands between the quotes. -/
def quoteChar (c : Char) : List Char :=
  match c with
  | '"' => ['\\', '"']
  | '\\' => ['\\', '\\']
  | '\n' => ['\\', 'n']
  | '\r' => ['\\', 'r']
  | '\t' => ['\\', 't']
  | '\x00' => ['\\', '0']
  | c => if isInvisible c then ['\\', 'u', '\x7b'] ++ hexDigits c.toNat ++ ['\x7d'] else [c]

/-- Text in double quotes, every character of it visible. -/
def quote (s : String) : String :=
  String.ofList (['"'] ++ s.toList.flatMap quoteChar ++ ['"'])

end HouseholdDashboard.Text
