/-!
# Binary64 arithmetic on exact rationals

A number of the binary64 format is a rational whose distance from zero is a
whole multiple of a power of two.  An operation computes the exact rational
result and then takes the nearest number of the format, a tie going to the even
neighbour.  Everything here reduces in the logic, so the chart's geometry can be
reasoned about down to the last bit.

The two zeros are one number: nothing in the geometry tells them apart.
-/

namespace HouseholdDashboard

/-- A number of the binary64 format, an infinity, or not a number. -/
inductive Binary64 where
  | nan
  | infinite (negative : Bool)
  | finite (value : Rat)
deriving DecidableEq

namespace Binary64

/-! ## Rounding -/

/-- The nearest integer; halfway between two, the even one. -/
def roundEven (x : Rat) : Int :=
  let below := x.floor
  if x - below < 1 / 2 then below
  else if 1 / 2 < x - below then below + 1
  else below + below % 2

/-- The nearest integer; halfway between two, the one further from zero. -/
def roundAway (x : Rat) : Int :=
  if 0 ≤ x then (x + 1 / 2).floor else (x - 1 / 2).ceil

/-- The integer part, cut towards zero. -/
def truncate (x : Rat) : Int :=
  if 0 ≤ x then x.floor else x.ceil

/-- The exponent of the largest power of two that is at most `|x|`, for `x ≠ 0`. -/
def binaryExponent (x : Rat) : Int :=
  let guess : Int := (x.num.natAbs.log2 : Int) - (x.den.log2 : Int)
  if x.abs < (2 : Rat) ^ guess then guess - 1 else guess

/-- The format's numbers near `x` are the multiples of two to this power. -/
def gridExponent (x : Rat) : Int :=
  max (-1074) (binaryExponent x - 52)

/-- The nearest rational with 53 significant bits, however large it is. -/
def nearest (x : Rat) : Rat :=
  let step := (2 : Rat) ^ gridExponent x
  (roundEven (x / step) : Rat) * step

/-- The nearest number of the format; beyond its range an infinity. -/
def ofRat (x : Rat) : Binary64 :=
  let value := nearest x
  if value.abs < (2 : Rat) ^ (1024 : Nat) then .finite value else .infinite (x < 0)

/-- The nearest number of the format to an integer. -/
def ofInt (n : Int) : Binary64 :=
  ofRat n

/-! ## Arithmetic -/

def neg : Binary64 → Binary64
  | nan => nan
  | infinite negative => infinite (!negative)
  | finite x => finite (-x)

def add : Binary64 → Binary64 → Binary64
  | nan, _ => nan
  | _, nan => nan
  | infinite a, infinite b => if a = b then infinite a else nan
  | infinite a, finite _ => infinite a
  | finite _, infinite b => infinite b
  | finite x, finite y => ofRat (x + y)

def sub (a b : Binary64) : Binary64 :=
  a.add b.neg

def mul : Binary64 → Binary64 → Binary64
  | nan, _ => nan
  | _, nan => nan
  | infinite a, infinite b => infinite (a != b)
  | infinite a, finite y => if y = 0 then nan else infinite (a != decide (y < 0))
  | finite x, infinite b => if x = 0 then nan else infinite (decide (x < 0) != b)
  | finite x, finite y => ofRat (x * y)

/-- Division; a zero divisor counts as positive. -/
def div : Binary64 → Binary64 → Binary64
  | nan, _ => nan
  | _, nan => nan
  | infinite _, infinite _ => nan
  | infinite a, finite y => infinite (a != decide (y < 0))
  | finite _, infinite _ => finite 0
  | finite x, finite y =>
    if y = 0 then (if x = 0 then nan else infinite (x < 0)) else ofRat (x / y)

instance : Neg Binary64 := ⟨neg⟩
instance : Add Binary64 := ⟨add⟩
instance : Sub Binary64 := ⟨sub⟩
instance : Mul Binary64 := ⟨mul⟩
instance : Div Binary64 := ⟨div⟩

/-! ## Order -/

/-- Strictly less; false whenever one side is not a number. -/
def lt : Binary64 → Binary64 → Bool
  | nan, _ => false
  | _, nan => false
  | infinite a, infinite b => a && !b
  | infinite a, finite _ => a
  | finite _, infinite b => !b
  | finite x, finite y => x < y

/-- At most; false whenever one side is not a number. -/
def le : Binary64 → Binary64 → Bool
  | nan, _ => false
  | _, nan => false
  | infinite a, infinite b => a || !b
  | infinite a, finite _ => a
  | finite _, infinite b => !b
  | finite x, finite y => x ≤ y

def isFinite : Binary64 → Bool
  | finite _ => true
  | _ => false

/-- The larger of two numbers; the other one if one is not a number. -/
def max (a b : Binary64) : Binary64 :=
  if a.lt b then b else if a = nan then b else a

/-- Move a number between two bounds; what is not a number stays so. -/
def clamp (x low high : Binary64) : Binary64 :=
  if x.lt low then low else if high.lt x then high else x

/-! ## To and from integers -/

/-- The nearest integer as a number of the format, halves away from zero. -/
def round : Binary64 → Binary64
  | finite x => finite (roundAway x)
  | x => x

/-- The least integer at or above, as a number of the format. -/
def ceil : Binary64 → Binary64
  | finite x => finite x.ceil
  | x => x

/-! ## The 64-bit pattern -/

/-- The number that a 64-bit pattern stands for. -/
def ofBits (bits : UInt64) : Binary64 :=
  let word := bits.toNat
  let negative : Bool := Nat.pow 2 63 ≤ word
  let exponent : Nat := word / Nat.pow 2 52 % Nat.pow 2 11
  let fraction : Nat := word % Nat.pow 2 52
  if exponent = 2047 then
    if fraction = 0 then infinite negative else nan
  else
    let magnitude : Rat :=
      if exponent = 0 then (fraction : Rat) * (2 : Rat) ^ (-1074 : Int)
      else ((Nat.pow 2 52 + fraction : Nat) : Rat) * (2 : Rat) ^ ((exponent : Int) - 1075)
    finite (if negative then -magnitude else magnitude)

/-- The 64-bit pattern of a number; zero is the positive zero. -/
def toBits : Binary64 → UInt64
  | nan => 0x7ff8000000000000
  | infinite negative => if negative then 0xfff0000000000000 else 0x7ff0000000000000
  | finite x =>
    let grid := gridExponent x
    let units := (x.abs / (2 : Rat) ^ grid).num.natAbs
    let magnitude :=
      if units < Nat.pow 2 52 then units
      else (grid + 1075).toNat * Nat.pow 2 52 + (units - Nat.pow 2 52)
    .ofNat (if x < 0 then Nat.pow 2 63 + magnitude else magnitude)

/-- The number that a machine float holds. -/
def ofFloat (x : Float) : Binary64 :=
  ofBits x.toBits

/-- The machine float that holds a number. -/
def toFloat (x : Binary64) : Float :=
  Float.ofBits x.toBits

end Binary64

end HouseholdDashboard
