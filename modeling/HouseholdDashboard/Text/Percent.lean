import HouseholdDashboard.Text.Utf8

/-!
# Percent encoding

A byte that is not a letter, a digit or one of `-_.~` is written as a percent sign
and two upper-case hexadecimal digits.  Decoding leaves a percent sign alone that no
two digits follow.
-/

namespace HouseholdDashboard.Text.Percent

/-- The bytes that stand for themselves. -/
def isPlain (b : UInt8) : Bool :=
  (0x30 ≤ b && b ≤ 0x39) || (0x41 ≤ b && b ≤ 0x5a) || (0x61 ≤ b && b ≤ 0x7a) ||
    b == 0x2d || b == 0x2e || b == 0x5f || b == 0x7e

/-- A digit below sixteen as a byte. -/
def hexByte (n : UInt8) : UInt8 :=
  if n < 10 then 0x30 + n else 0x37 + n

/-- The value of a hexadecimal digit of either case. -/
def hexValue? (b : UInt8) : Option UInt8 :=
  if 0x30 ≤ b ∧ b ≤ 0x39 then some (b - 0x30)
  else if 0x41 ≤ b ∧ b ≤ 0x46 then some (b - 0x37)
  else if 0x61 ≤ b ∧ b ≤ 0x66 then some (b - 0x57)
  else none

def encodeByte (b : UInt8) : List UInt8 :=
  if isPlain b then [b] else [0x25, hexByte (b / 16), hexByte (b % 16)]

def encodeBytes (bs : List UInt8) : List UInt8 :=
  bs.flatMap encodeByte

def decodeBytes : List UInt8 → List UInt8
  | 0x25 :: first :: second :: rest =>
    match hexValue? first, hexValue? second with
    | some high, some low => (high * 16 + low) :: decodeBytes rest
    | _, _ => 0x25 :: decodeBytes (first :: second :: rest)
  | b :: rest => b :: decodeBytes rest
  | [] => []

/-- The percent-encoded form of a text. -/
def encode (s : String) : String :=
  String.ofList ((encodeBytes (bytes s)).map fun b => Char.ofNat b.toNat)

/-- The decoded text, if the decoded bytes are text. -/
def decode? (s : String) : Option String :=
  ofBytes? (decodeBytes (bytes s))

/-- The decoded text, with replacement characters where the decoded bytes are no text. -/
def decodeLossy (s : String) : String :=
  ofBytesLossy (decodeBytes (bytes s))

end HouseholdDashboard.Text.Percent
