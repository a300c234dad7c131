import HouseholdDashboard.Number.Binary64

/-!
# Decimal text and binary64 numbers

Reading takes the nearest number of the format.  Writing takes the fewest
decimal digits that read back as the same number and, of those, the nearest to
it.  How the digits are laid out on the line is a separate decision, one record
value per output format.
-/

namespace HouseholdDashboard

/-- A decimal literal: `coefficient · 10 ^ exponent`, negated if `negative`. -/
structure Decimal where
  negative : Bool
  coefficient : Nat
  exponent : Int
deriving DecidableEq

namespace Decimal

/-! ## Digits -/

/-- The digits of a number, most significant first. -/
def digits (n : Nat) : List Char :=
  Nat.toDigits 10 n

/-- The number that a run of ASCII digits spells. -/
def ofDigits (cs : List Char) : Nat :=
  cs.foldl (fun n c => 10 * n + (c.toNat - '0'.toNat)) 0

/-- The number that ASCII digits spell, which a plus sign may precede. -/
def unsigned? (cs : List Char) : Option Nat :=
  let ds := match cs with
    | '+' :: ds => ds
    | ds => ds
  if !ds.isEmpty && ds.all Char.isDigit then some (ofDigits ds) else none

/-! ## Reading -/

/-- The rational that a literal stands for, its sign left out. -/
def magnitude (d : Decimal) : Rat :=
  (d.coefficient : Rat) * (10 : Rat) ^ d.exponent

/--
The nearest machine float, the sign of zero kept; `none` beyond the largest
finite number.  Literals whose leading digit lies far outside the format's range
are settled by its place alone.
-/
def toFloat? (d : Decimal) : Option Float :=
  let signed (x : Float) : Float := if d.negative then -x else x
  let leading := d.exponent + (digits d.coefficient).length
  if d.coefficient = 0 || leading < -330 then some (signed 0)
  else if 330 < leading then none
  else
    match Binary64.ofRat d.magnitude with
    | .finite x => some (signed (Binary64.finite x).toFloat)
    | _ => none

/-! ## The fewest digits that read back -/

/-- The exponent of the largest power of ten that is at most `x`, for `0 < x`. -/
def decimalExponent (x : Rat) : Int :=
  let guess := Binary64.binaryExponent x * 30103 / 100000
  if (10 : Rat) ^ (guess + 1) ≤ x then guess + 1
  else if x < (10 : Rat) ^ guess then guess - 1
  else guess

/-- Whether `y` reads as the number `x` of the format, for `0 < x`. -/
def readsAs (x y : Rat) : Bool :=
  let grid := Binary64.gridExponent x
  let step := (2 : Rat) ^ grid
  let units := (x / step).num
  let above := x + step / 2
  let below := if units = Nat.pow 2 52 ∧ -1074 < grid then x - step / 4 else x - step / 2
  if units % 2 = 0 then below ≤ y && y ≤ above else below < y && y < above

/--
The multiple of `10 ^ exponent` that reads as `x` and lies nearest to it; of two
equally near ones the even.
-/
def nearestOnGrid? (x : Rat) (exponent : Int) : Option Nat :=
  let step := (10 : Rat) ^ exponent
  let low := (x / step).floor.toNat
  let lowFits := readsAs x ((low : Rat) * step)
  let highFits := readsAs x (((low + 1 : Nat) : Rat) * step)
  let fromLow := x / step - (low : Rat)
  if lowFits && highFits then
    some (if fromLow < 1 / 2 then low else if 1 / 2 < fromLow then low + 1 else low + low % 2)
  else if lowFits then some low
  else if highFits then some (low + 1)
  else none

/-- Drop the zeros at the end of a coefficient, with at most `fuel` steps. -/
def dropZeros : Nat → Nat → Int → Nat × Int
  | 0, n, e => (n, e)
  | fuel + 1, n, e => if n ≠ 0 ∧ n % 10 = 0 then dropZeros fuel (n / 10) (e + 1) else (n, e)

/-- The fewest digits that read as `x`, for `0 < x`; seventeen always suffice. -/
def shortest (x : Rat) : Nat × Int :=
  let top := decimalExponent x
  let found := (List.range 17).findSome? fun (n : Nat) =>
    (nearestOnGrid? x (top - (n : Int))).map fun k => (k, top - (n : Int))
  let (n, e) := found.getD (0, 0)
  dropZeros 18 n e

/-- The literal with the fewest digits for a finite machine float. -/
def ofFloat? (x : Float) : Option Decimal :=
  let negative : Bool := Nat.pow 2 63 ≤ x.toBits.toNat
  match Binary64.ofFloat x with
  | .finite v =>
    if v = 0 then some ⟨negative, 0, 0⟩
    else
      let (n, e) := shortest v.abs
      some ⟨negative, n, e⟩
  | _ => none

/-! ## Layout -/

/-- How digits are put on the line. -/
structure Layout where
  /-- A number below one is written with a point if its first digit stands at most this far
  behind it. -/
  lowest : Option Nat
  /-- A number from one on is written with a point if it has at most this many digits before it. -/
  highest : Option Nat
  /-- What follows the last digit of a whole number. -/
  wholeTail : String
  /-- What stands before the power of ten if it is positive. -/
  plus : String
deriving DecidableEq

/-- Whether a place is within a limit; no limit admits every place. -/
def within (place : Int) : Option Nat → Bool
  | none => true
  | some limit => place ≤ limit

/-- The text of a literal without its sign. -/
def layOut (layout : Layout) (coefficient : Nat) (exponent : Int) : String :=
  if coefficient = 0 then "0" ++ layout.wholeTail
  else
    let ds := digits coefficient
    let point : Int := ds.length + exponent
    if 0 < point then
      if within point layout.highest then
        if 0 ≤ exponent then
          String.ofList (ds ++ List.replicate exponent.toNat '0') ++ layout.wholeTail
        else
          String.ofList (ds.take point.toNat) ++ "." ++ String.ofList (ds.drop point.toNat)
      else scientific ds point
    else if within (1 - point) layout.lowest then
      "0." ++ String.ofList (List.replicate (-point).toNat '0' ++ ds)
    else scientific ds point
where
  /-- One digit, the rest behind a point, and the power of ten. -/
  scientific (ds : List Char) (point : Int) : String :=
    let tail := ds.drop 1
    String.ofList (ds.take 1) ++ (if tail.isEmpty then "" else "." ++ String.ofList tail)
      ++ "e" ++ (if 1 < point then layout.plus else "") ++ toString (point - 1)

/-- The text of a literal. -/
def render (layout : Layout) (d : Decimal) : String :=
  (if d.negative then "-" else "") ++ layOut layout d.coefficient d.exponent

/-- Data formats write a point or an exponent in every such number. -/
def Layout.interchange : Layout := ⟨some 5, some 16, ".0", "+"⟩

/-- Plain text never uses an exponent and needs no point in whole numbers. -/
def Layout.plain : Layout := ⟨none, none, "", ""⟩

end Decimal

end HouseholdDashboard
