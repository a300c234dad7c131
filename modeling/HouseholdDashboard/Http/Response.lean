import HouseholdDashboard.Http.Brotli
import HouseholdDashboard.Http.Header
import HouseholdDashboard.Json.Value
import HouseholdDashboard.Text.Utf8

/-!
# Responses

What a client is sent: a status and mostly a document, which is compressed if the
client takes that.
-/

namespace HouseholdDashboard.Http

/-- What a response says. -/
inductive Content where
  | nothing
  | plain (text : String)
  | document (value : Json)

structure Response where
  status : Nat
  content : Content
  /-- Whether the content is compressed. -/
  compressed : Bool := false
  /-- Whether only the headers are sent. -/
  headersOnly : Bool := false

namespace Response

/-- A response without content. -/
def empty (status : Nat) : Response := ⟨status, .nothing, false, false⟩

def json (status : Nat) (value : Json) (compressed : Bool) : Response :=
  ⟨status, .document value, compressed, false⟩

/-- The text of the content. -/
def text (r : Response) : String :=
  match r.content with
  | .nothing => ""
  | .plain text => text
  | .document value => value.render

/-- The content in bytes. -/
def encoded (r : Response) : List UInt8 :=
  let bs := Text.bytes r.text
  if r.compressed then Brotli.encode bs else bs

/-- The bytes that are sent after the headers. -/
def body (r : Response) : List UInt8 :=
  if r.headersOnly then [] else r.encoded

def contentType? (r : Response) : Option String :=
  match r.content with
  | .nothing => none
  | .plain _ => some "text/plain; charset=utf-8"
  | .document _ => some "application/json"

/-- The headers; the length is that of the content, whether it is sent or not. -/
def headers (r : Response) : Headers :=
  (r.contentType?.map fun type => ("content-type", type)).toList ++
    [("content-length", toString r.encoded.length)] ++
    if r.compressed then [("content-encoding", "br")] else []

end Response

end HouseholdDashboard.Http
