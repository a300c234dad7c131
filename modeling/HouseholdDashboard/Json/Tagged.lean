import HouseholdDashboard.Json.Reader

/-!
# Documents with a tag

A choice among records is written with a tag that names the record.  The tag stands
among the members, in any place, or is the first item of an array.  The rest of the
document is kept as a whole until the tag is known.
-/

namespace HouseholdDashboard.Json.Reader

/-- The tag of a record: one of the known names. -/
def tagName (known : List String) (d : Draft) : Except Misread String := do
  let name ← string d
  if known.contains name then .ok name else .error .mismatch

/-- Keep a part of a document; all of it must have a value. -/
def keep (d : Draft) : Except Misread Unit :=
  if d.sound (Draft.depthLimit - 1) then .ok () else .error .malformed

/-- Go through members in their order: the tag, and the members that are kept, the last first. -/
def gather (tag : String) (known : List String)
    (found : Option String × List (Option String × Draft)) (m : Option String × Draft) :
    Except Misread (Option String × List (Option String × Draft)) :=
  match m.1 with
  | none => .error .malformed
  | some name =>
    if name = tag then
      match found.1 with
      | some _ => .error .mismatch
      | none => do return (some (← tagName known m.2), found.2)
    else do
      keep m.2
      return (found.1, m :: found.2)

/-- The tag of a document and the document without it. -/
def tagged (tag : String) (known : List String) (d : Draft) : Except Misread (String × Draft) :=
  match d with
  | .object members complete => do
    let (found, kept) ← members.foldlM (gather tag known) (none, [])
    if complete then return (← required found, .object kept.reverse true)
    else .error .malformed
  | .array [] complete => .error (if complete then .mismatch else .malformed)
  | .array (first :: rest) complete => do
    let name ← tagName known first
    rest.forM keep
    if complete then return (name, .array rest true) else .error .malformed
  | d => .error (refuse d)

/-- The fields of the record that a tag names, from what was kept. -/
def body (read : Reader α) (kept : Draft) : Except Misread α :=
  (read kept).mapError fun _ => .mismatch

/-- A record without fields; named members are no matter, items are. -/
def noFields (a : α) : Reader α
  | .array (_ :: _) _ => .error .mismatch
  | _ => .ok a

/-- A record with one field. -/
def oneField (name : String) (read : Reader α) (make : α → β) : Reader β := fun d => do
  let step (s : Option α) (key : String) (d : Draft) : Except Misread (Option α) :=
    if key = name then once s read d else do skip d; return s
  let (s, _) ← slots [name] step none d
  return make (← required s)

/-- A record with two fields. -/
def twoFields (first second : String) (readFirst : Reader α) (readSecond : Reader β)
    (make : α → β → γ) : Reader γ := fun d => do
  let step (s : Option α × Option β) (key : String) (d : Draft) :
      Except Misread (Option α × Option β) :=
    if key = first then return (← once s.1 readFirst d, s.2)
    else if key = second then return (s.1, ← once s.2 readSecond d)
    else do skip d; return s
  let (s, _) ← slots [first, second] step (none, none) d
  return make (← required s.1) (← required s.2)

/-- One of some words in a kept document, where an empty object also counts as null. -/
def keptWord (value? : String → Option α) : Reader α
  | .object [(some s, .object [] true)] true => word value? (.string (some s))
  | d => word value? d

end HouseholdDashboard.Json.Reader
