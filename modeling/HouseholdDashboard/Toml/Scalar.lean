import HouseholdDashboard.Json.Token
import HouseholdDashboard.Number.Binary64
import HouseholdDashboard.Number.Decimal
import HouseholdDashboard.Text.Split
import HouseholdDashboard.Time.Rfc3339
import HouseholdDashboard.Toml.Value

/-!
# Numbers, truth values and times

A scalar without quotes is a word whose form says what it is.  Digits may be grouped by
underscores.  A time is kept as text, in its usual form.
-/

namespace HouseholdDashboard.Toml

/-! ## Numbers -/

/-- The digits of a group, without the underscores between them. -/
def digits? (kind : Char → Bool) (cs : List Char) : Option (List Char) :=
  let parts := Text.split '_' cs
  if parts.all fun part => !part.isEmpty && part.all kind then some parts.flatten else none

/-- A sign that may be left out, and the rest. -/
def signed : List Char → Bool × List Char
  | '-' :: cs => (true, cs)
  | '+' :: cs => (false, cs)
  | cs => (false, cs)

/-- Decimal digits that do not begin with a zero unless it is the only one. -/
def leading? (cs : List Char) : Option (List Char) :=
  (digits? Char.isDigit cs).filter fun _ => cs.head? ≠ some '0' || cs.length = 1

/-- The number that digits of a base spell. -/
def ofBase? (base : Nat) (cs : List Char) : Option Nat := do
  let isDigit (c : Char) : Bool := (Json.Token.hexValue? c).any (· < base)
  let ds ← digits? isDigit cs
  return ds.foldl (fun n d => base * n + (Json.Token.hexValue? d).getD 0) 0

/-- A whole number, of any size. -/
def integer? (cs : List Char) : Option Int :=
  match cs with
  | '0' :: 'x' :: rest => (ofBase? 16 rest).map Int.ofNat
  | '0' :: 'o' :: rest => (ofBase? 8 rest).map Int.ofNat
  | '0' :: 'b' :: rest => (ofBase? 2 rest).map Int.ofNat
  | _ => do
    let (negative, rest) := signed cs
    let n := Decimal.ofDigits (← leading? rest)
    return if negative then -(n : Int) else n

/-- The value of an exponent that may be left out. -/
def exponent? : List Char → Option Int
  | [] => some 0
  | _ :: cs => do
    let (negative, rest) := signed cs
    let n := Decimal.ofDigits (← digits? Char.isDigit rest)
    return if negative then -(n : Int) else n

/-- A number with a point, an exponent or both; the largest floats bound it. -/
def fraction? (cs : List Char) : Option Float := do
  let (negative, rest) := signed cs
  let isExponent (c : Char) : Bool := c = 'e' || c = 'E'
  let mantissa := rest.takeWhile (!isExponent ·)
  let exponent ← exponent? (rest.dropWhile (!isExponent ·))
  let (whole, part) ← match Text.split '.' mantissa with
    | [whole] => (leading? whole).map (·, [])
    | [whole, part] => do pure (← leading? whole, ← digits? Char.isDigit part)
    | _ => none
  let literal : Decimal := ⟨negative, Decimal.ofDigits (whole ++ part), exponent - part.length⟩
  literal.toFloat?

/-- An infinity, or what is no number. -/
def special? (cs : List Char) : Option Float :=
  let (negative, rest) := signed cs
  if rest = ['i', 'n', 'f'] then some (Binary64.infinite negative).toFloat
  else if rest = ['n', 'a', 'n'] then some Binary64.nan.toFloat
  else none

/-! ## Times -/

open Rfc3339 in
/-- A date at the front of a text, in its usual form. -/
def dateText? (cs : List Char) : Option (List Char × List Char) := do
  let (year, cs) ← number? 4 cs
  let cs ← after? '-' cs
  let (month, cs) ← number? 2 cs
  let cs ← after? '-' cs
  let (day, cs) ← number? 2 cs
  let date : Date := ⟨year, month, day⟩
  if date.Valid then some (dateText date, cs) else none

/-- A fraction of a second at the front of a text, which may be left out; nine digits count, and
zeros at the end do not, but for one that stands alone. -/
def fractionText? (cs : List Char) : Option (List Char × List Char) := do
  let (nanos, rest) ← Rfc3339.fraction? cs
  if cs.head? = some '.' then
    let part := ((Rfc3339.padded 9 nanos).reverse.dropWhile (· = '0')).reverse
    return ('.' :: if part.isEmpty then ['0'] else part, rest)
  else return ([], rest)

open Rfc3339 in
/-- The seconds at the front of a text, with their colon and their fraction; they may be left
out. -/
def secondsText? (cs : List Char) : Option (List Char × List Char) := do
  if cs.head? = some ':' then
    let (second, cs) ← number? 2 (cs.drop 1)
    let (part, cs) ← fractionText? cs
    if second ≤ 60 then return (':' :: padded 2 second ++ part, cs) else none
  else return ([], cs)

open Rfc3339 in
/-- A time of day at the front of a text, in its usual form. -/
def clockText? (cs : List Char) : Option (List Char × List Char) := do
  let (hour, cs) ← number? 2 cs
  let cs ← after? ':' cs
  let (minute, cs) ← number? 2 cs
  let (seconds, cs) ← secondsText? cs
  if hour ≤ 23 ∧ minute ≤ 59 then
    some (padded 2 hour ++ ':' :: padded 2 minute ++ seconds, cs)
  else none

open Rfc3339 in
/-- An offset, which may be left out. -/
def zoneText? : List Char → Option (List Char)
  | [] => some []
  | ['Z'] => some ['Z']
  | ['z'] => some ['Z']
  | sign :: cs => do
    let (hours, cs) ← number? 2 cs
    let cs ← after? ':' cs
    let (minutes, cs) ← number? 2 cs
    if (sign = '+' ∨ sign = '-') ∧ cs.isEmpty ∧ hours ≤ 23 ∧ minutes ≤ 59 then
      let shown := if hours = 0 ∧ minutes = 0 then '+' else sign
      some (shown :: padded 2 hours ++ ':' :: padded 2 minutes)
    else none

/-- A date with or without a time of day, or a time of day, in its usual form. -/
def time? (cs : List Char) : Option String :=
  match dateText? cs with
  | some (date, []) => some (String.ofList date)
  | some (date, separator :: rest) => do
    let (clock, rest) ← if Rfc3339.isSeparator separator then clockText? rest else none
    let zone ← zoneText? rest
    return String.ofList (date ++ 'T' :: clock ++ zone)
  | none =>
    match clockText? cs with
    | some (clock, []) => some (String.ofList clock)
    | _ => none

/-! ## Words -/

/-- The value that a word stands for; whole numbers have 64 bits. -/
def scalar? (cs : List Char) : Option Value :=
  if cs = "true".toList then some (.flag true)
  else if cs = "false".toList then some (.flag false)
  else
    match integer? cs with
    | some n => if -9223372036854775808 ≤ n ∧ n ≤ 9223372036854775807 then some (.whole n) else none
    | none =>
      match special? cs with
      | some x => some (.real x)
      | none =>
        match fraction? cs with
        | some x => some (.real x)
        | none => (time? cs).map .text

end HouseholdDashboard.Toml
