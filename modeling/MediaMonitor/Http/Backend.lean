import MediaMonitor.Backend
import MediaMonitor.ErrorNote
import MediaMonitor.Http.Message
import MediaMonitor.Http.Retry

/-!
# The backend over HTTP

Every call is one request, and its response is interpreted on its own.  A request that changes
nothing is executed plainly; one that does is given a single attempt; the batch deletion is
streamed. A response that is no success becomes an error with the backend's own account of it, or
else with the beginning of its body.
-/

namespace MediaMonitor

/-- How a request is carried out. -/
inductive Http.Carriage where
  | execute
  /-- With a policy of retries, of which the greatest number of attempts is given. -/
  | retry (maxAttempts : UInt32)
  | stream
  deriving DecidableEq, Repr

/-- A request and how it is carried out. -/
structure Http.Sent where
  carriage : Http.Carriage
  request : Http.Request

namespace Http.Sent

/-- What becomes of a request when the transport has no retries of its own. -/
def plain (s : Sent) : Sent :=
  match s.carriage with
  | .retry _ => { s with carriage := .execute }
  | _ => s

end Http.Sent

/-- Drops the slashes at the end of a text. -/
def dropEndSlashes (s : String) : String :=
  String.ofList ((s.toList.reverse.dropWhile (· = '/')).reverse)

/-- The backend at an address. -/
structure HttpBackend where
  baseUrl : String
  apiKey : Option String := none
  timeout : Duration := .ofSeconds 30

namespace HttpBackend

open Http

/-- The backend at an address, which may end in slashes. -/
def ofUrl (url : String) (apiKey : Option String) (timeout : Duration) : HttpBackend :=
  ⟨dropEndSlashes url, apiKey, timeout⟩

/-- A request for a path. -/
def base (b : HttpBackend) (method : Method) (path : String) : Request :=
  let r := (Request.mk method (b.baseUrl ++ path) ∅ none none).accept "application/json"
  match b.apiKey with
  | some key => r.header "X-Api-Key" key
  | none => r

/-- A request that changes nothing. -/
def query (b : HttpBackend) (path : String) : Sent :=
  ⟨.execute, (b.base .get path).withTimeout b.timeout⟩

/-- A request that makes a change, and must not be repeated. -/
def change (b : HttpBackend) (r : Request) : Sent :=
  ⟨.retry RetryPolicy.noRetry.maxAttempts, r.withTimeout b.timeout⟩

/-- An id in a path. -/
def idText (id : Int64) : String := Text.ofInt id.toInt

/-- The path of an item. -/
def itemPath (id : Int64) : String := "/api/library/items/" ++ idText id

/-- The request of a call. -/
def request (b : HttpBackend) : BackendCall → Sent
  | .startSync key =>
      b.change ((b.base .post "/api/sync/libraries").json (.object [
        ("server_id", Json.ofInt64 key.serverId), ("library_id", .string key.libraryId)]))
  | .syncStatus => b.query "/api/sync/status"
  | .listCandidates ruleId query =>
      b.query ("/api/rules/" ++ idText ruleId ++ "/candidates?" ++ query.queryString)
  | .bulkDelete ruleId ids =>
      ⟨.stream, ((b.base .post ("/api/rules/" ++ idText ruleId ++ "/candidates/delete")).accept
        "text/event-stream").json (.object [("candidate_ids", Json.ofList Json.ofInt64 ids)])⟩
  | .crossServerMatches itemId => b.query (itemPath itemId ++ "/matches")
  | .deleteLibraryItem itemId none => b.change (b.base .delete (itemPath itemId))
  | .deleteLibraryItem itemId (some source) =>
      b.change (b.base .delete (itemPath itemId ++ "?source_item_id=" ++ idText source))

/-! ## Responses -/

/-- The length from which on the body of an error is cut. -/
def maxErrorBody : Nat := 4096

/-- The text that stands for the body of an error without a note. -/
def plainErrorText (status : UInt16) (body : List UInt8) : String :=
  let raw := Text.trim (Utf8.toTextLossy (body.take maxErrorBody))
  if raw = "" then "HTTP " ++ Text.ofNat status.toNat else raw

/-- The error of a response that is no success. -/
def apiError (status : UInt16) (body : List UInt8) : MaintenanceError :=
  .api status (((Json.ofOctets? body).bind ErrorNote.text?).getD (plainErrorText status body))

/-- A response that is a success. -/
def check (r : Response) : Except MaintenanceError Response :=
  if isSuccess r.status then .ok r else .error (apiError r.status r.body)

/-- The value in the body of a response. -/
def decode (ofJson? : Json → Option α) (r : Response) : Except MaintenanceError α :=
  match (Json.ofOctets? r.body).bind ofJson? with
  | some a => .ok a
  | none => .error (.decode "the response is not as expected")

/-- How many items of the body of an error are read, when so many octets have been. -/
def errorItems (size : Nat) : List BodyItem → Nat
  | [] => 0
  | .error _ :: _ => 1
  | .ok bs :: rest =>
      if maxErrorBody ≤ size + bs.length then 1 else 1 + errorItems (size + bs.length) rest

/-- The octets of a list of items, up to the first error. -/
def octetsOf : List BodyItem → List UInt8
  | .ok bs :: rest => bs ++ octetsOf rest
  | _ => []

/-- The part of the body of an error that is read: it ends at an error of the transport, or when it
is long enough. -/
def errorBody (items : List BodyItem) : List UInt8 := octetsOf (items.take (errorItems 0 items))

/-- The response to a call, be it streamed or not. -/
abbrev Reply : BackendCall → Type
  | .bulkDelete _ _ => Except BridgeError StreamResponse
  | _ => Except BridgeError Response

/-- What a buffered response means. -/
def buffered (read : Response → Except MaintenanceError α) (reply : Except BridgeError Response) :
    Except MaintenanceError α :=
  match reply with
  | .error e => .error (.bridge e)
  | .ok r => (check r).bind read

/-- What a streamed response means. -/
def streamed (reply : Except BridgeError StreamResponse) : Except MaintenanceError Body :=
  match reply with
  | .error e => .error (.bridge e)
  | .ok r =>
      if isSuccess r.status then .ok r.body
      else .error (apiError r.status (errorBody r.body.items))

/-- The outcome of a call. -/
def interpret : (c : BackendCall) → Reply c → c.Outcome
  | .startSync _, reply =>
      match buffered (fun _ => .ok .started) reply with
      | .ok r => .ok r
      | .error e => if e.isConflict then .ok .alreadyRunning else .error e
  | .syncStatus, reply => buffered (decode SyncSnapshot.ofJson?) reply
  | .listCandidates _ _, reply => buffered (decode CandidatePage.ofJson?) reply
  | .bulkDelete _ _, reply => streamed reply
  | .crossServerMatches _, reply => buffered (decode (Json.list? CrossServerMatch.ofJson?)) reply
  | .deleteLibraryItem _ _, reply => buffered (fun _ => .ok ()) reply

end HttpBackend

end MediaMonitor
