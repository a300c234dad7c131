import HouseholdDashboard.Number.Decimal

/-!
# Tokens of a JSON text

A text is cut into tokens from left to right.  A token that is well formed but has
no value, a number beyond the range of floats or a string with half of a surrogate
pair, is still a token: it is an error only for a reader that wants its value.
-/

namespace HouseholdDashboard

/-- A number: a whole number of at most 64 bits, or a float. -/
inductive Json.Number where
  | whole (n : Int)
  | real (x : Float)
deriving DecidableEq

namespace Json

inductive Token where
  | openArray
  | closeArray
  | openObject
  | closeObject
  | comma
  | colon
  | null
  | bool (b : Bool)
  /-- `none` for a number that no float reaches. -/
  | number (n : Option Number)
  /-- `none` for a string with an unpaired surrogate. -/
  | string (s : Option String)
  /-- Not a token of the language. -/
  | bad
deriving DecidableEq

namespace Token

/-- The characters that may stand between tokens. -/
def isSpace (c : Char) : Bool :=
  c = ' ' || c = '\n' || c = '\t' || c = '\r'

/-! ## Numbers -/

/-- The value of a number without fraction and exponent; `-0` is a float. -/
def wholeNumber (negative : Bool) (n : Nat) : Option Number :=
  if negative then
    if n = 0 then some (.real (-0.0))
    else if n ≤ Nat.pow 2 63 then some (.whole (-n))
    else ((Decimal.mk true n 0).toFloat?).map .real
  else if n < Nat.pow 2 64 then some (.whole n)
  else ((Decimal.mk false n 0).toFloat?).map .real

/-- The digits at the front of a text, if there are any. -/
def digits? (cs : List Char) : Option (List Char × List Char) :=
  let ds := cs.takeWhile Char.isDigit
  if ds.isEmpty then none else some (ds, cs.dropWhile Char.isDigit)

/-- The digits of an optional fraction. -/
def fraction? : List Char → Option (List Char × List Char)
  | '.' :: cs => digits? cs
  | cs => some ([], cs)

/-- An optional exponent; the flag says whether there is one. -/
def exponent? : List Char → Option (Bool × Int × List Char)
  | c :: cs =>
    if c = 'e' ∨ c = 'E' then
      let (negative, cs) := match cs with
        | '-' :: rest => (true, rest)
        | '+' :: rest => (false, rest)
        | rest => (false, rest)
      (digits? cs).map fun (ds, rest) =>
        let n : Int := Decimal.ofDigits ds
        (true, if negative then -n else n, rest)
    else some (false, 0, c :: cs)
  | [] => some (false, 0, [])

/-- Whether a text begins with a minus sign, and what follows that. -/
def minus : List Char → Bool × List Char
  | '-' :: rest => (true, rest)
  | rest => (false, rest)

/-- A number at the front of a text; its whole part has no leading zeros. -/
def number? (cs : List Char) : Option (Option Number × List Char) := do
  let (negative, cs) := minus cs
  let (whole, cs) ← digits? cs
  if 1 < whole.length ∧ whole.head? = some '0' then none
  else
    let (part, cs) ← fraction? cs
    let (hasExponent, exponent, cs) ← exponent? cs
    if part.isEmpty ∧ !hasExponent then some (wholeNumber negative (Decimal.ofDigits whole), cs)
    else
      let literal : Decimal :=
        ⟨negative, Decimal.ofDigits (whole ++ part), exponent - part.length⟩
      some (literal.toFloat?.map .real, cs)

/-! ## Strings -/

def hexValue? (c : Char) : Option Nat :=
  if c.isDigit then some (c.toNat - '0'.toNat)
  else if 'a' ≤ c ∧ c ≤ 'f' then some (c.toNat - 'a'.toNat + 10)
  else if 'A' ≤ c ∧ c ≤ 'F' then some (c.toNat - 'A'.toNat + 10)
  else none

/-- The number that four hexadecimal digits spell. -/
def hex4? (a b c d : Char) : Option Nat := do
  return ((← hexValue? a) * 16 + (← hexValue? b)) * 256 + ((← hexValue? c) * 16 + (← hexValue? d))

def isHighSurrogate (n : Nat) : Bool := 0xd800 ≤ n && n < 0xdc00

def isLowSurrogate (n : Nat) : Bool := 0xdc00 ≤ n && n < 0xe000

/-- The character that an escape with one letter stands for. -/
def shortEscape? : Char → Option Char
  | '"' => some '"'
  | '\\' => some '\\'
  | '/' => some '/'
  | 'b' => some '\x08'
  | 'f' => some '\x0c'
  | 'n' => some '\n'
  | 'r' => some '\r'
  | 't' => some '\t'
  | _ => none

/-- What has been read of a string. -/
structure Partial where
  /-- The characters so far, the last one first. -/
  chars : List Char
  /-- A high surrogate that waits for its low one. -/
  pending : Option Nat
  /-- Whether every surrogate so far has found its partner. -/
  paired : Bool

namespace Partial

/-- Take in a character that is no surrogate. -/
def push (p : Partial) (c : Char) : Partial :=
  ⟨c :: p.chars, none, p.paired && p.pending.isNone⟩

/-- Take in the value of a `\u` escape. -/
def pushUnit (p : Partial) (n : Nat) : Partial :=
  if isHighSurrogate n then ⟨p.chars, some n, p.paired && p.pending.isNone⟩
  else if isLowSurrogate n then
    match p.pending with
    | some high =>
      ⟨Char.ofNat (0x10000 + (high - 0xd800) * 0x400 + (n - 0xdc00)) :: p.chars, none, p.paired⟩
    | none => ⟨p.chars, none, false⟩
  else p.push (Char.ofNat n)

/-- The text, if it is one. -/
def text? (p : Partial) : Option String :=
  if p.paired && p.pending.isNone then some (String.ofList p.chars.reverse) else none

end Partial

/-- The rest of a string after its opening quote, up to and with the closing one. -/
def string? (p : Partial) : List Char → Option (Option String × List Char)
  | '"' :: rest => some (p.text?, rest)
  | '\\' :: 'u' :: a :: b :: c :: d :: rest =>
    match hex4? a b c d with
    | some n => string? (p.pushUnit n) rest
    | none => none
  | '\\' :: c :: rest =>
    match shortEscape? c with
    | some c => string? (p.push c) rest
    | none => none
  | '\\' :: [] => none
  | c :: rest => if c.toNat < 0x20 then none else string? (p.push c) rest
  | [] => none

/-! ## All tokens -/

/-- The token at the front of a text that is neither empty nor begins with a space. -/
def next? : List Char → Option (Token × List Char)
  | '[' :: cs => some (openArray, cs)
  | ']' :: cs => some (closeArray, cs)
  | '\x7b' :: cs => some (openObject, cs)
  | '\x7d' :: cs => some (closeObject, cs)
  | ',' :: cs => some (comma, cs)
  | ':' :: cs => some (colon, cs)
  | 'n' :: 'u' :: 'l' :: 'l' :: cs => some (null, cs)
  | 't' :: 'r' :: 'u' :: 'e' :: cs => some (bool true, cs)
  | 'f' :: 'a' :: 'l' :: 's' :: 'e' :: cs => some (bool false, cs)
  | '"' :: cs => (string? ⟨[], none, true⟩ cs).map fun (s, rest) => (string s, rest)
  | cs => (number? cs).map fun (n, rest) => (number n, rest)

/-- The tokens of a text, at most `limit` of them; nothing follows a bad one. -/
def scan : Nat → List Char → List Token
  | 0, _ => []
  | limit + 1, cs =>
    match cs.dropWhile isSpace with
    | [] => []
    | rest =>
      match next? rest with
      | some (t, rest) => t :: scan limit rest
      | none => [bad]

/-- The tokens of a text: each takes at least one character. -/
def ofText (text : String) : List Token :=
  let cs := text.toList
  scan cs.length cs

end Token

end Json

end HouseholdDashboard
