import HouseholdDashboard.Json.Draft

/-!
# JSON values

A value has settled numbers and strings.  Its members stand in any order; of
members with one name the last counts, which `member?` and the printer see to.
-/

namespace HouseholdDashboard

inductive Json where
  | null
  | bool (b : Bool)
  | number (n : Json.Number)
  | string (s : String)
  | array (items : List Json)
  | object (members : List (String × Json))

namespace Json

instance : Inhabited Json := ⟨null⟩

def int (n : Int) : Json := number (.whole n)

def nat (n : Nat) : Json := number (.whole n)

/-- A float as a value; what is not finite has none. -/
def float (x : Float) : Json :=
  if x.isFinite then number (.real x) else null

/-- The value of an optional part. -/
def option (f : α → Json) : Option α → Json
  | some a => f a
  | none => null

/-- The member with a name; of several the last. -/
def member? (members : List (String × Json)) (name : String) : Option Json :=
  (members.reverse.find? (·.1 = name)).map (·.2)

/-- Whether a later member has the name of the first. -/
def isShadowed (name : String) (later : List (String × α)) : Bool :=
  later.any (·.1 = name)

/-- The members that count: of those with one name the last. -/
def lastMembers : List (String × α) → List (String × α)
  | [] => []
  | (name, v) :: rest =>
    if isShadowed name rest then lastMembers rest else (name, v) :: lastMembers rest

/-! ## From and to drafts -/

mutual

/-- The value of a draft that has one in every part. -/
def ofDraft : Draft → Json
  | .null => null
  | .bool b => bool b
  | .number n => match n with
    | some n => number n
    | none => null
  | .string s => match s with
    | some s => string s
    | none => null
  | .array items _ => array (ofDrafts items)
  | .object members _ => object (ofMembers members)
  | .broken => null

def ofDrafts : List Draft → List Json
  | [] => []
  | d :: rest => ofDraft d :: ofDrafts rest

def ofMembers : List (Option String × Draft) → List (String × Json)
  | [] => []
  | (some name, d) :: rest => (name, ofDraft d) :: ofMembers rest
  | (none, _) :: rest => ofMembers rest

end

/-- The value that a text consists of. -/
def ofText? (text : String) : Option Json :=
  let d := Draft.ofWholeText text
  if d.sound Draft.depthLimit then some (ofDraft d) else none

mutual

/-- A value as a document without repeated members. -/
def toDraft : Json → Draft
  | null => .null
  | bool b => .bool b
  | number n => .number (some n)
  | string s => .string (some s)
  | array items => .array (toDrafts items) true
  | object members => .object (toMembers members) true

def toDrafts : List Json → List Draft
  | [] => []
  | v :: rest => toDraft v :: toDrafts rest

def toMembers : List (String × Json) → List (Option String × Draft)
  | [] => []
  | (name, v) :: rest =>
    if isShadowed name rest then toMembers rest else (some name, toDraft v) :: toMembers rest

end

/-! ## Printing -/

/-- One character of a string as it stands in a text. -/
def escape (c : Char) : List Char :=
  match c with
  | '"' => ['\\', '"']
  | '\\' => ['\\', '\\']
  | '\x08' => ['\\', 'b']
  | '\x0c' => ['\\', 'f']
  | '\n' => ['\\', 'n']
  | '\r' => ['\\', 'r']
  | '\t' => ['\\', 't']
  | c =>
    if c.toNat < 0x20 then
      ['\\', 'u', '0', '0', Nat.digitChar (c.toNat / 16), Nat.digitChar (c.toNat % 16)]
    else [c]

def quoteText (s : String) : String :=
  String.ofList (['"'] ++ s.toList.flatMap escape ++ ['"'])

def Number.render : Number → String
  | .whole n => toString n
  | .real x => match Decimal.ofFloat? x with
    | some d => d.render .interchange
    | none => "null"

/-- Put a member among members that are sorted by their names. -/
def insertMember (m : String × α) : List (String × α) → List (String × α)
  | [] => [m]
  | x :: rest => if m.1 < x.1 then m :: x :: rest else x :: insertMember m rest

/-- Members in the order of their names. -/
def sortMembers (members : List (String × α)) : List (String × α) :=
  members.foldl (fun sorted m => insertMember m sorted) []

mutual

/-- The value with every object's members in order, each name once. -/
def canonical : Json → Json
  | array items => array (canonicalItems items)
  | object members => object (sortMembers (canonicalMembers members))
  | v => v

def canonicalItems : List Json → List Json
  | [] => []
  | v :: rest => canonical v :: canonicalItems rest

def canonicalMembers : List (String × Json) → List (String × Json)
  | [] => []
  | (name, v) :: rest =>
    if isShadowed name rest then canonicalMembers rest
    else (name, canonical v) :: canonicalMembers rest

end

/-- Put an opening and a closing mark around parts and commas between them. -/
def bracket (opening closing : String) (parts : List String) : String :=
  opening ++ ",".intercalate parts ++ closing

mutual

/-- The text of a value without spaces, members in the order in which they stand. -/
def printed : Json → String
  | null => "null"
  | bool b => if b then "true" else "false"
  | number n => n.render
  | string s => quoteText s
  | array items => bracket "[" "]" (printedItems items)
  | object members => bracket "\x7b" "\x7d" (printedMembers members)

def printedItems : List Json → List String
  | [] => []
  | v :: rest => printed v :: printedItems rest

def printedMembers : List (String × Json) → List String
  | [] => []
  | (name, v) :: rest => (quoteText name ++ ":" ++ printed v) :: printedMembers rest

end

/-- The text of a value: no spaces, members in the order of their names. -/
def render (v : Json) : String :=
  v.canonical.printed

end Json

end HouseholdDashboard
