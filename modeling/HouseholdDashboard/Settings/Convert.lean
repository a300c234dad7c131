import HouseholdDashboard.Number.Binary64
import HouseholdDashboard.Number.Decimal
import HouseholdDashboard.Settings.Setting

/-!
# Conversion of settings

A setting is taken for what is needed: a number for a text, a text for a number, and a
truth value for either.
-/

namespace HouseholdDashboard.Settings

/-! ## Text -/

/-- A float as plain text. -/
def floatText (x : Float) : String :=
  match Decimal.ofFloat? x with
  | some d => d.render .plain
  | none =>
    match Binary64.ofFloat x with
    | .infinite true => "-inf"
    | .infinite false => "inf"
    | _ => "NaN"

/-- A setting as text. -/
def text? : Setting → Option String
  | .text s => some s
  | .whole n => some (toString n)
  | .real x => some (floatText x)
  | .flag b => some (if b then "true" else "false")
  | .list _ => none
  | .table _ | .gap => none

/-! ## Numbers -/

/-- The truth value that a word stands for, in any case. -/
def flagWord? (s : String) : Option Bool :=
  let word := s.toLower
  if word = "true" ∨ word = "on" ∨ word = "yes" then some true
  else if word = "false" ∨ word = "off" ∨ word = "no" then some false
  else none

/-- The bound of whole numbers. -/
def bound : Nat := Nat.pow 2 64

/-- The nearest whole number of 64 bits, halves away from zero. -/
def nearest (x : Binary64) : Nat :=
  match x.round with
  | .finite q => min (q.floor.toNat) (bound - 1)
  | .infinite false => bound - 1
  | _ => 0

/-- A setting as a whole number from zero. -/
def nat? : Setting → Option Nat
  | .whole n => if 0 ≤ n then some n.toNat else none
  | .real x => some (nearest (Binary64.ofFloat x))
  | .flag b => some b.toNat
  | .text s =>
    match flagWord? s with
    | some b => some b.toNat
    | none => (Decimal.unsigned? s.toList).filter (· < bound)
  | .list _ => none
  | .table _ | .gap => none

/-- The number in a text: digits with an optional point and exponent, or the name of an infinity. -/
def floatOfText? (s : String) : Option Float :=
  let (negative, cs) := match s.toLower.toList with
    | '-' :: cs => (true, cs)
    | '+' :: cs => (false, cs)
    | cs => (false, cs)
  let word := String.ofList cs
  if word = "inf" ∨ word = "infinity" then some (Binary64.infinite negative).toFloat
  else if word = "nan" then some Binary64.nan.toFloat
  else
    let whole := cs.takeWhile Char.isDigit
    let rest := cs.dropWhile Char.isDigit
    let (part, rest) := match rest with
      | '.' :: rest => (rest.takeWhile Char.isDigit, rest.dropWhile Char.isDigit)
      | rest => ([], rest)
    if whole.isEmpty && part.isEmpty then none
    else do
      let exponent ← exponent? rest
      let literal : Decimal :=
        ⟨negative, Decimal.ofDigits (whole ++ part), exponent - part.length⟩
      return literal.toFloat?.getD (Binary64.infinite negative).toFloat
where
  /-- The value of an exponent that may be left out. -/
  exponent? : List Char → Option Int
    | [] => some 0
    | 'e' :: cs =>
      let (negative, ds) := match cs with
        | '-' :: ds => (true, ds)
        | '+' :: ds => (false, ds)
        | ds => (false, ds)
      if !ds.isEmpty && ds.all Char.isDigit then
        let n : Int := Decimal.ofDigits ds
        some (if negative then -n else n)
      else none
    | _ => none

/-- A setting as a float. -/
def float? : Setting → Option Float
  | .whole n => some (Binary64.ofInt n).toFloat
  | .real x => some x
  | .flag b => some (if b then 1 else 0)
  | .text s =>
    match flagWord? s with
    | some b => some (if b then 1 else 0)
    | none => floatOfText? s
  | .list _ => none
  | .table _ | .gap => none

end HouseholdDashboard.Settings
