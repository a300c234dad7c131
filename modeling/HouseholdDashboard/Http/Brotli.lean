/-!
# Stored Brotli streams

Brotli streams in which the bytes stand as they are.  A stream is a sequence of blocks;
a block begins with its length, and the last one is empty.  Every reader of Brotli
takes such a stream.
-/

namespace HouseholdDashboard.Http.Brotli

/-- The most bytes in one block. -/
def blockSize : Nat := 65536

/-- The three bytes before a block: `lead` bits, then the length in 16 bits, then a mark that the
bytes follow as they are. -/
def blockHeader (lead : Nat) (length : Nat) : List UInt8 :=
  let n := Nat.pow 2 lead * (length - 1) + Nat.pow 2 (lead + 16)
  [n % 256, n / 256 % 256, n / 65536].map fun (b : Nat) => b.toUInt8

/-- The blocks of some bytes.  The first one is led by the size of the window, one bit, and every
one by three bits that say that it is not the last and has a length of 16 bits. -/
def blocks (lead : Nat) (bs : List UInt8) : List UInt8 :=
  if bs.isEmpty then []
  else
    let block := bs.take blockSize
    blockHeader lead block.length ++ block ++ blocks 3 (bs.drop blockSize)
termination_by bs.length
decreasing_by
  cases bs with
  | nil => simp_all
  | cons b rest => simp only [List.length_drop, List.length_cons, blockSize]; omega

/-- The stream of some bytes; the last block follows at a byte of its own. -/
def encode (bs : List UInt8) : List UInt8 :=
  if bs.isEmpty then [0x06] else blocks 4 bs ++ [0x03]

/-- The length that a block's header names, if the bytes follow as they are. -/
def blockLength? (lead : Nat) (a b c : UInt8) : Option Nat :=
  let n := a.toNat + 256 * b.toNat + 65536 * c.toNat
  if n % Nat.pow 2 lead = 0 ∧ n / Nat.pow 2 (lead + 16) = 1 then
    some (n / Nat.pow 2 lead % 65536 + 1)
  else none

/-- The bytes of a sequence of blocks. -/
def unblock? (lead : Nat) : List UInt8 → Option (List UInt8)
  | [0x03] => if lead = 3 then some [] else none
  | a :: b :: c :: rest =>
    match blockLength? lead a b c with
    | some n =>
      if n ≤ rest.length then (unblock? 3 (rest.drop n)).map (rest.take n ++ ·) else none
    | none => none
  | _ => none
termination_by bs => bs.length
decreasing_by simp only [List.length_drop, List.length_cons]; omega

/-- The bytes of a stored stream. -/
def decode? : List UInt8 → Option (List UInt8)
  | [0x06] => some []
  | bs => unblock? 4 bs

end HouseholdDashboard.Http.Brotli
