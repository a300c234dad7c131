import HouseholdDashboard.Json.Token

/-!
# Documents as far as they can be read

A text that is not JSON still begins with something that is.  A draft holds what
there is of a document: members in the order of the text, repeated ones included,
and marks where the text breaks off.  A reader that walks a draft in order meets
the first fault first, whether it is in the text or in what the text says.
-/

namespace HouseholdDashboard.Json

/-- A document as far as it can be read. -/
inductive Draft where
  | null
  | bool (b : Bool)
  /-- `none` for a number that no float reaches. -/
  | number (n : Option Number)
  /-- `none` for a string with an unpaired surrogate. -/
  | string (s : Option String)
  /-- The items, and whether the closing bracket was reached. -/
  | array (items : List Draft) (complete : Bool)
  /-- The members in order, and whether the closing brace was reached. -/
  | object (members : List (Option String × Draft)) (complete : Bool)
  /-- Here the text breaks off. -/
  | broken

namespace Draft

/-! ## Building -/

/-- A container that is still open; what it holds so far, the last first. -/
inductive Frame where
  | array (items : List Draft)
  | object (members : List (Option String × Draft))
  /-- An object with a member whose value is awaited. -/
  | member (members : List (Option String × Draft)) (key : Option String)

/-- Put a value into an open container. -/
def Frame.put (d : Draft) : Frame → Frame
  | array items => array (d :: items)
  | member members key => object ((key, d) :: members)
  | object members => object members

/-- The draft of a container. -/
def Frame.close (complete : Bool) : Frame → Draft
  | array items => .array items.reverse complete
  | object members => .object members.reverse complete
  | member members _ => .object members.reverse complete

/-- What may come next. -/
inductive Expected where
  | value
  | itemOrClose
  | keyOrClose
  | key
  | colon
  | separator
deriving DecidableEq

/-- The draft when the text breaks off inside the open containers, the innermost first. -/
def abandon (expected : Expected) : List Frame → Draft
  | [] => .broken
  | frame :: outer =>
    let inner := if expected = .value ∨ expected = .itemOrClose ∨ expected = .colon
      then frame.put .broken else frame
    outer.foldl (fun d f => (f.put d).close false) (inner.close false)

/-- The draft of a token that is a value of its own. -/
def scalar? : Token → Option Draft
  | .null => some .null
  | .bool b => some (.bool b)
  | .number n => some (.number n)
  | .string s => some (.string s)
  | _ => none

/-- How a value goes on after a token. -/
inductive Progress where
  | done (d : Draft)
  | onward (stack : List Frame) (expected : Expected)
  /-- The token may not stand there. -/
  | stuck

/-- Where a complete value leads: into the innermost container that is open, if there is one. -/
def give (d : Draft) : List Frame → Progress
  | [] => .done d
  | frame :: outer => .onward (frame.put d :: outer) .separator

/-- Where a token leads that is not the beginning of a value. -/
def mark (t : Token) (stack : List Frame) (expected : Expected) : Progress :=
  match expected, t, stack with
  | .itemOrClose, .closeArray, frame :: outer => give (frame.close true) outer
  | .separator, .closeArray, .array items :: outer => give (Frame.close true (.array items)) outer
  | .keyOrClose, .closeObject, frame :: outer => give (frame.close true) outer
  | .separator, .closeObject, .object members :: outer =>
    give (Frame.close true (.object members)) outer
  | .separator, .comma, .array items :: outer => .onward (.array items :: outer) .value
  | .separator, .comma, .object members :: outer => .onward (.object members :: outer) .key
  | .keyOrClose, .string s, .object members :: outer => .onward (.member members s :: outer) .colon
  | .key, .string s, .object members :: outer => .onward (.member members s :: outer) .colon
  | .colon, .colon, frame :: outer => .onward (frame :: outer) .value
  | _, _, _ => .stuck

/-- Where a token leads. -/
def advance (t : Token) (stack : List Frame) (expected : Expected) : Progress :=
  if expected = .value ∨ expected = .itemOrClose then
    match t with
    | .openArray => .onward (.array [] :: stack) .itemOrClose
    | .openObject => .onward (.object [] :: stack) .keyOrClose
    | t =>
      match scalar? t with
      | some d => give d stack
      | none => mark t stack expected
  else mark t stack expected

/-- Read one value; the tokens after it are left over. -/
def build : List Token → List Frame → Expected → Draft × List Token
  | [], stack, expected => (abandon expected stack, [])
  | t :: ts, stack, expected =>
    match advance t stack expected with
    | .done d => (d, ts)
    | .onward stack expected => build ts stack expected
    | .stuck => (abandon expected stack, ts)

/-- The first document of a text, whatever follows it. -/
def ofText (text : String) : Draft :=
  (build (Token.ofText text) [] .value).1

/-- The document that a text consists of; what follows it breaks it. -/
def ofWholeText (text : String) : Draft :=
  match build (Token.ofText text) [] .value with
  | (d, []) => d
  | _ => .broken

/-! ## Skipping and keeping -/

mutual

/-- Whether the text of a document is complete, whatever its values are. -/
def intact : Draft → Bool
  | array items complete => intactItems items && complete
  | object members complete => intactMembers members && complete
  | broken => false
  | _ => true

def intactItems : List Draft → Bool
  | [] => true
  | d :: rest => d.intact && intactItems rest

def intactMembers : List (Option String × Draft) → Bool
  | [] => true
  | (_, d) :: rest => d.intact && intactMembers rest

end

mutual

/-- Whether every part of a document has a value and none is nested `depth` deep. -/
def sound (depth : Nat) : Draft → Bool
  | number n => n.isSome
  | string s => s.isSome
  | array items complete => 1 < depth && soundItems (depth - 1) items && complete
  | object members complete => 1 < depth && soundMembers (depth - 1) members && complete
  | broken => false
  | _ => true

def soundItems (depth : Nat) : List Draft → Bool
  | [] => true
  | d :: rest => d.sound depth && soundItems depth rest

def soundMembers (depth : Nat) : List (Option String × Draft) → Bool
  | [] => true
  | (key, d) :: rest => key.isSome && d.sound depth && soundMembers depth rest

end

/-- Documents that are kept as a whole may not be nested this deep. -/
def depthLimit : Nat := 128

end Draft

end HouseholdDashboard.Json
