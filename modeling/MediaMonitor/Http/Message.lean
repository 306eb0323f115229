import MediaMonitor.Deletion.Reading
import MediaMonitor.Json.Writer
import MediaMonitor.Number.Duration

/-!
# Requests and responses

A request is built step by step; a later header of the same name replaces an earlier one.  A
response holds its whole body, or hands it out as a stream.
-/

namespace MediaMonitor.Http

/-- The method of a request. -/
inductive Method where
  | get
  | post
  | put
  | patch
  | delete
  | head
  deriving DecidableEq, Repr, Inhabited

namespace Method

/-- The name of a method. -/
def name : Method → String
  | .get => "Get"
  | .post => "Post"
  | .put => "Put"
  | .patch => "Patch"
  | .delete => "Delete"
  | .head => "Head"

/-- The method with a name. -/
def ofName? (s : String) : Option Method :=
  [get, post, put, patch, delete, head].find? (fun m => m.name = s)

end Method

/-- A request. -/
structure Request where
  method : Method
  url : String
  headers : SortedMap String String := ∅
  body : Option (List UInt8) := none
  timeout : Option Duration := none

namespace Request

/-- Sets a header. -/
def header (r : Request) (name value : String) : Request :=
  { r with headers := r.headers.insert name value }

/-- Asks for a type of content. -/
def accept (r : Request) (contentType : String) : Request := r.header "Accept" contentType

/-- Sets the body to a JSON text. -/
def json (r : Request) (j : Json) : Request :=
  { r with body := some (Utf8.ofText j.write) }.header "Content-Type" "application/json"

/-- Sets the body. -/
def withBody (r : Request) (body : List UInt8) : Request := { r with body := some body }

/-- Sets the timeout. -/
def withTimeout (r : Request) (timeout : Duration) : Request := { r with timeout := some timeout }

end Request

/-- The status says that the request succeeded. -/
def isSuccess (status : UInt16) : Bool := 200 ≤ status && status < 300

/-- The status says that the client is at fault. -/
def isClientError (status : UInt16) : Bool := 400 ≤ status && status < 500

/-- The status says that the server is at fault. -/
def isServerError (status : UInt16) : Bool := 500 ≤ status && status < 600

/-- A response with its whole body. -/
structure Response where
  status : UInt16
  body : List UInt8
  deriving DecidableEq, Repr

namespace Response

/-- The body as a text. -/
def text (r : Response) : Except BridgeError String :=
  match Utf8.toText? r.body with
  | some s => .ok s
  | none => .error (.operationFailed "Invalid UTF-8")

/-- The body as JSON without a type of its own. -/
def json (r : Response) : Except BridgeError Json :=
  match (Json.ofOctets? r.body).bind Json.untyped? with
  | some j => .ok j
  | none => .error (.operationFailed "JSON deserialization failed")

end Response

/-- A response that hands out its body as a stream. -/
structure StreamResponse where
  status : UInt16
  body : Body

namespace StreamResponse

/-- A description of a response without its body. -/
def description (status : UInt16) : String :=
  "HttpStreamResponse \x7b status: " ++ Text.ofNat status.toNat ++
    ", headers: \x7b\x7d, body: \"ByteStream \x7b ... \x7d\" \x7d"

end StreamResponse

end MediaMonitor.Http
