/-!
# Bytes of text

Text and the bytes of its UTF-8 form.  Where bytes must be shown even if they are
no text, each run that cannot be decoded is shown as one replacement character.
-/

namespace HouseholdDashboard.Text

/-- The UTF-8 form of a text. -/
def bytes (s : String) : List UInt8 :=
  s.toUTF8.toList

/-- The text with this UTF-8 form. -/
def ofBytes? (bs : List UInt8) : Option String :=
  String.fromUTF8? ⟨bs.toArray⟩

/-- How many bytes must follow a first byte, and the least and the greatest second byte. -/
def sequenceShape (first : UInt8) : Option (Nat × UInt8 × UInt8) :=
  if 0xc2 ≤ first ∧ first ≤ 0xdf then some (1, 0x80, 0xbf)
  else if first = 0xe0 then some (2, 0xa0, 0xbf)
  else if first = 0xed then some (2, 0x80, 0x9f)
  else if 0xe1 ≤ first ∧ first ≤ 0xef then some (2, 0x80, 0xbf)
  else if first = 0xf0 then some (3, 0x90, 0xbf)
  else if 0xf1 ≤ first ∧ first ≤ 0xf3 then some (3, 0x80, 0xbf)
  else if first = 0xf4 then some (3, 0x80, 0x8f)
  else none

/-- How many of the following bytes continue a sequence, at most as many as it needs. -/
def continuing (needed : Nat) (low high : UInt8) : List UInt8 → Nat
  | [] => 0
  | b :: rest =>
    match needed with
    | 0 => 0
    | needed + 1 => if low ≤ b ∧ b ≤ high then 1 + continuing needed 0x80 0xbf rest else 0

/-- The code point of a complete sequence. -/
def codePoint (first : UInt8) (rest : List UInt8) : Nat :=
  let lead := match rest.length with
    | 1 => first.toNat % 0x20
    | 2 => first.toNat % 0x10
    | _ => first.toNat % 0x08
  rest.foldl (fun n b => n * 0x40 + b.toNat % 0x40) lead

/-- The characters of some bytes; what is no UTF-8 becomes replacement characters. -/
def lossyChars : List UInt8 → List Char
  | [] => []
  | first :: rest =>
    if first < 0x80 then Char.ofNat first.toNat :: lossyChars rest
    else
      match sequenceShape first with
      | none => '\ufffd' :: lossyChars rest
      | some (needed, low, high) =>
        let found := continuing needed low high rest
        if found = needed then
          Char.ofNat (codePoint first (rest.take found)) :: lossyChars (rest.drop found)
        else '\ufffd' :: lossyChars (rest.drop found)
termination_by bs => bs.length
decreasing_by all_goals simp only [List.length_cons, List.length_drop]; omega

/-- The text of some bytes; what is no UTF-8 becomes replacement characters. -/
def ofBytesLossy (bs : List UInt8) : String :=
  String.ofList (lossyChars bs)

end HouseholdDashboard.Text
