import HouseholdDashboard.Json.Value
import HouseholdDashboard.Time.Millis

/-!
# Reading documents into types

A reader walks a draft in the order of the text and reports the first fault it
meets: text that is no JSON, or JSON of the wrong shape.

A record may stand as an object with named members, of which the unknown ones are
skipped and none may be repeated, or as an array of its fields in their order.
-/

namespace HouseholdDashboard.Json

/-- Why a document cannot be read. -/
inductive Misread where
  /-- The text is not JSON, or not as far as it is needed. -/
  | malformed
  /-- The text is JSON of the wrong shape. -/
  | mismatch
deriving DecidableEq

/-- A way to read a type from a document. -/
abbrev Reader (α : Type) := Draft → Except Misread α

namespace Reader

/-! ## Scalars -/

/-- The fault of a document that is not of the wanted kind. -/
def refuse : Draft → Misread
  | .broken => .malformed
  | .number none => .malformed
  | .string none => .malformed
  | _ => .mismatch

/-- Whole numbers that a condition admits. -/
def whole (admits : Int → Bool) : Reader Int
  | .number (some (.whole n)) => if admits n then .ok n else .error .mismatch
  | d => .error (refuse d)

/-- Whole numbers of 64 bits with a sign. -/
def millis : Reader Millis := fun d => do
  match Millis.ofInt? (← whole (fun _ => true) d) with
  | some m => .ok m
  | none => .error .mismatch

/-- Whole numbers from zero that stay below a bound. -/
def natBelow (bound : Nat) : Reader Nat := fun d =>
  (whole (fun n => 0 ≤ n && n < bound) d).map Int.toNat

/-- Numbers of any kind as the nearest floats. -/
def float : Reader Float
  | .number (some (.whole n)) => .ok (Binary64.ofInt n).toFloat
  | .number (some (.real x)) => .ok x
  | d => .error (refuse d)

def bool : Reader Bool
  | .bool b => .ok b
  | d => .error (refuse d)

def string : Reader String
  | .string (some s) => .ok s
  | d => .error (refuse d)

/-- A value that may be null. -/
def nullable (read : Reader α) : Reader (Option α)
  | .null => .ok none
  | d => (read d).map some

/-- Every item of an array. -/
def list (read : Reader α) : Reader (List α)
  | .array items complete => do
    let values ← items.mapM read
    if complete then .ok values else .error .malformed
  | d => .error (refuse d)

/-- One of some words; it may also stand as the only member of an object, with the value null. -/
def word (value? : String → Option α) : Reader α
  | .string (some s) => match value? s with
    | some a => .ok a
    | none => .error .mismatch
  | .object [(some s, .null)] true => match value? s with
    | some a => .ok a
    | none => .error .mismatch
  | .object _ false => .error .malformed
  | d => .error (refuse d)

/-! ## Records -/

/-- Skip the value of an unknown member. -/
def skip (d : Draft) : Except Misread Unit :=
  if d.intact then .ok () else .error .malformed

/-- The members of a record, and whether they came with their names. -/
structure Members where
  members : List (Option String × Draft)
  complete : Bool
  named : Bool

/-- The members of a record whose fields are known in their order. -/
def members (fields : List String) : Draft → Except Misread Members
  | .object members complete => .ok ⟨members, complete, true⟩
  | .array items complete =>
    .ok ⟨(fields.map some).zip items, complete && items.length ≤ fields.length, false⟩
  | d => .error (refuse d)

/-- Read the members of a record one after the other into its slots. -/
def slots (fields : List String) (step : σ → String → Draft → Except Misread σ) (empty : σ)
    (d : Draft) : Except Misread (σ × Bool) := do
  let r ← members fields d
  let filled ← r.members.foldlM (fun s (name, d) =>
    match name with
    | some name => step s name d
    | none => .error .malformed) empty
  if r.complete then .ok (filled, r.named) else .error .malformed

/-- Read a member into its slot, which must be empty. -/
def once (slot : Option α) (read : Reader α) (d : Draft) : Except Misread (Option α) :=
  match slot with
  | some _ => .error .mismatch
  | none => (read d).map some

/-- The value of a slot that must be filled. -/
def required : Option α → Except Misread α
  | some a => .ok a
  | none => .error .mismatch

/-- The value of a slot that may be left out, but only where members have names. -/
def optional (named : Bool) : Option (Option α) → Except Misread (Option α)
  | some a => .ok a
  | none => if named then .ok none else .error .mismatch

end Reader

/-- Read a type from a value. -/
def read? (read : Reader α) (v : Json) : Option α :=
  (read v.toDraft).toOption

/-- Read a type from a text that consists of one document. -/
def readText (read : Reader α) (text : String) : Except Misread α := do
  let d := Draft.ofWholeText text
  read d

end HouseholdDashboard.Json
