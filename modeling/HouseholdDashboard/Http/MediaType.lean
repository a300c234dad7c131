import HouseholdDashboard.Text.Split

/-!
# Media types

A media type is a type and a subtype, whose last part after a plus sign is its suffix,
and parameters.  Only whether a text is JSON matters here; the parameters are no matter
as long as they are well written.
-/

namespace HouseholdDashboard.Http

/-- The characters of names and of values without quotes. -/
def isTokenChar (c : Char) : Bool :=
  c.isAlphanum || "!#$%&'*+-.^_`|~".toList.contains c

structure MediaType where
  main : String
  subtype : String
  suffix : Option String
deriving DecidableEq

namespace MediaType

/-- What follows a value and its separator. -/
def afterSeparator? : List Char → Option (List Char)
  | [] => some []
  | ';' :: rest => some rest
  | _ => none

/-- What follows the value at the front of a text. -/
def afterValue? : List Char → Option (List Char)
  | '"' :: cs =>
    -- a quote right behind the opening one is part of the value
    let rest := (cs.drop 1).dropWhile (· ≠ '"')
    let value := cs.take (cs.length - rest.length)
    if value.all (fun c => 0x20 ≤ c.toNat && c.toNat ≠ 0x7f) then
      match rest with
      | '"' :: rest => afterSeparator? (rest.dropWhile (· = ' '))
      | _ => none
    else none
  | cs =>
    let value := cs.takeWhile isTokenChar
    match cs.dropWhile isTokenChar with
    | [] => some []
    | rest => if value.isEmpty then none else afterSeparator? rest

/-- Whether a text consists of parameters, of which there are at most `limit`. -/
def areParameters : Nat → List Char → Bool
  | 0, cs => cs.isEmpty
  | limit + 1, cs =>
    match cs.dropWhile (· = ' ') with
    | [] => true
    | cs =>
      let name := cs.takeWhile isTokenChar
      match cs.dropWhile isTokenChar with
      | '=' :: rest =>
        match afterValue? rest with
        | some rest => !name.isEmpty && areParameters limit rest
        | none => false
      | _ => false

/-- A subtype and its suffix: what follows the last plus sign that is not at its front. -/
def splitSuffix (cs : List Char) : List Char × Option (List Char) :=
  let suffix := (cs.reverse.takeWhile (· ≠ '+')).reverse
  let rest := cs.take (cs.length - suffix.length - 1)
  if suffix.length < cs.length && !rest.isEmpty then (rest, some suffix) else (cs, none)

/-- The media type that a text names, in lower case. -/
def ofText? (text : String) : Option MediaType :=
  let cs := text.toLower.toList
  let main := cs.takeWhile isTokenChar
  match cs.dropWhile isTokenChar with
  | '/' :: cs =>
    let name := cs.takeWhile isTokenChar
    let (subtype, suffix) := splitSuffix name
    let type : MediaType :=
      ⟨String.ofList main, String.ofList subtype, suffix.map String.ofList⟩
    if main.isEmpty then none
    else
      match cs.dropWhile isTokenChar with
      | [] => some type
      | ';' :: rest =>
        if !name.isEmpty && areParameters rest.length rest then some type else none
      | _ => none
  | _ => none

/-- Whether documents of a type are JSON. -/
def isJson (t : MediaType) : Bool :=
  t.main = "application" && (t.subtype = "json" || t.suffix = some "json")

end MediaType

end HouseholdDashboard.Http
