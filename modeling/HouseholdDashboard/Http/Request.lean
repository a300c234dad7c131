import HouseholdDashboard.Http.Header
import HouseholdDashboard.Http.MediaType
import HouseholdDashboard.Json.Reader
import HouseholdDashboard.Query

/-!
# Requests

What a client sends, and what can be wrong with a document in it.
-/

namespace HouseholdDashboard.Http

inductive Method where
  | get
  | head
  | post
  | other (name : String)
deriving DecidableEq

/-- Names of methods are upper case. -/
def Method.ofName : String → Method
  | "GET" => get
  | "HEAD" => head
  | "POST" => post
  | name => other name

structure Request where
  method : Method
  /-- The path as it is written. -/
  path : String
  /-- What follows the question mark, if there is one. -/
  query : Option String
  headers : Headers
  body : String
deriving DecidableEq

namespace Request

/-- A target without the host that it may name; the path behind a host is never empty. -/
def withoutHost (cs : List Char) : List Char :=
  if cs.head? = some '/' then cs
  else
    match cs.dropWhile (· ≠ ':') with
    | ':' :: '/' :: '/' :: rest =>
      let cs := rest.dropWhile fun c => c ≠ '/' && c ≠ '?'
      if cs.head? = some '/' then cs else '/' :: cs
    | _ => cs

/-- The path and the query of a target; a fragment is not part of either. -/
def splitTarget (target : String) : String × Option String :=
  let cs := withoutHost (target.toList.takeWhile (· ≠ '#'))
  let path := String.ofList (cs.takeWhile (· ≠ '?'))
  match cs.dropWhile (· ≠ '?') with
  | _ :: query => (path, some (String.ofList query))
  | [] => (path, none)

def ofTarget (method : Method) (target : String) (headers : Headers) (body : String) : Request :=
  let (path, query) := splitTarget target
  ⟨method, path, query, headers, body⟩

/-- Whether a request says that its body is JSON. -/
def saysJson (r : Request) : Bool :=
  match r.headers.value? "content-type" with
  | some text => (MediaType.ofText? text).any MediaType.isJson
  | none => false

/-- What is wrong with a document in a request. -/
inductive BodyFault where
  /-- The body is not said to be JSON. -/
  | unlabelled
  | malformed
  | mismatch
deriving DecidableEq

/-- The status that reports a fault. -/
def BodyFault.status : BodyFault → Nat
  | unlabelled => 415
  | malformed => 400
  | mismatch => 422

/-- Read the document at the front of the body; what follows it is no matter. -/
def document (r : Request) (read : Json.Reader α) : Except BodyFault α :=
  if !r.saysJson then .error .unlabelled
  else
    match read (.ofText r.body) with
    | .ok a => .ok a
    | .error .malformed => .error .malformed
    | .error .mismatch => .error .mismatch

end Request

end HouseholdDashboard.Http
