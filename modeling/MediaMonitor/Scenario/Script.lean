import MediaMonitor.Http.Backend
import MediaMonitor.Scenario.Delivery

/-!
# Scripted backends

A backend that answers from a script, each reply after a delay.  One kind is scripted call by call,
another one response by response, and is then the backend over HTTP with a scripted transport.  Each
kind of call has replies of its own, used in their order; when they are used up, the call fails.
-/

namespace MediaMonitor.Scenario

/-- A reply, and the time it takes to come; it may never come. -/
structure Reply (α : Type) where
  delay : Option Nat := some 0
  value : Except MaintenanceError α

/-- What a scripted backend answers to a call: a body comes in deliveries. -/
abbrev Timed : BackendCall → Type
  | .bulkDelete _ _ => List Delivery
  | c => c.Answer

/-- The failure of a call that the script has no reply for. -/
def unscripted : BridgeError := .notAvailable "unscripted"

/-- The first of a list of replies, and the others. -/
def takeReply : List (Reply α) → Reply α × List (Reply α)
  | [] => ({ value := .error (.bridge unscripted) }, [])
  | r :: rest => (r, rest)

/-- A source of scripted replies. -/
class Answers (β : Type) where
  ask : β → (c : BackendCall) → Reply (Timed c) × β

/-- The replies to each kind of call. -/
structure CallScript where
  start : List (Reply StartReply) := []
  status : List (Reply SyncSnapshot) := []
  candidates : List (Reply CandidatePage) := []
  bulk : List (Reply (List Delivery)) := []
  copies : List (Reply (List CrossServerMatch)) := []
  delete : List (Reply Unit) := []

namespace CallScript

/-- Takes the reply to a call. -/
def ask (s : CallScript) : (c : BackendCall) → Reply (Timed c) × CallScript
  | .startSync _ => let r := takeReply s.start; (r.1, { s with start := r.2 })
  | .syncStatus => let r := takeReply s.status; (r.1, { s with status := r.2 })
  | .listCandidates _ _ => let r := takeReply s.candidates; (r.1, { s with candidates := r.2 })
  | .bulkDelete _ _ => let r := takeReply s.bulk; (r.1, { s with bulk := r.2 })
  | .crossServerMatches _ => let r := takeReply s.copies; (r.1, { s with copies := r.2 })
  | .deleteLibraryItem _ _ => let r := takeReply s.delete; (r.1, { s with delete := r.2 })

instance : Answers CallScript := ⟨ask⟩

end CallScript

/-- A scripted response: its status, its body as a whole, and its body as a stream. -/
structure HttpReply where
  delay : Nat := 0
  status : UInt16 := 200
  body : List UInt8 := []
  deliveries : List Delivery := []
  error : Option BridgeError := none

namespace HttpReply

/-- The response with its whole body. -/
def buffered (r : HttpReply) : Except BridgeError Http.Response :=
  match r.error with
  | some e => .error e
  | none => .ok ⟨r.status, r.body⟩

/-- The response that streams its body. -/
def streamed (r : HttpReply) : Except BridgeError Http.StreamResponse :=
  match r.error with
  | some e => .error e
  | none => .ok ⟨r.status, Delivery.body r.deliveries⟩

/-- The response to a call. -/
def toReply (r : HttpReply) : (c : BackendCall) → HttpBackend.Reply c
  | .startSync _ => r.buffered
  | .syncStatus => r.buffered
  | .listCandidates _ _ => r.buffered
  | .bulkDelete _ _ => r.streamed
  | .crossServerMatches _ => r.buffered
  | .deleteLibraryItem _ _ => r.buffered

/-- The items that were read of the body of an error end the reading by themselves. -/
def endsReading (read : List BodyItem) : Bool :=
  read.any (fun i => match i with
    | .error _ => true
    | .ok _ => false) || HttpBackend.maxErrorBody ≤ (HttpBackend.octetsOf read).length

/-- The time it takes to read the body of an error. -/
def errorDelay? (r : HttpReply) : Option Nat :=
  let items := (Delivery.body r.deliveries).items
  let count := HttpBackend.errorItems 0 items
  if endsReading (items.take count) then Delivery.arrival? r.deliveries (count - 1)
  else Delivery.arrival? r.deliveries count

/-- The reply to a call. -/
def interpret (r : HttpReply) : (c : BackendCall) → Reply (Timed c)
  | .bulkDelete ruleId ids =>
      match HttpBackend.interpret (.bulkDelete ruleId ids) r.streamed with
      | .ok _ => ⟨some r.delay, .ok r.deliveries⟩
      | .error e =>
          ⟨if r.error.isSome then some r.delay else r.errorDelay?.map (r.delay + ·), .error e⟩
  | .startSync key => ⟨some r.delay, HttpBackend.interpret (.startSync key) r.buffered⟩
  | .syncStatus => ⟨some r.delay, HttpBackend.interpret .syncStatus r.buffered⟩
  | .listCandidates ruleId query =>
      ⟨some r.delay, HttpBackend.interpret (.listCandidates ruleId query) r.buffered⟩
  | .crossServerMatches itemId =>
      ⟨some r.delay, HttpBackend.interpret (.crossServerMatches itemId) r.buffered⟩
  | .deleteLibraryItem itemId source =>
      ⟨some r.delay, HttpBackend.interpret (.deleteLibraryItem itemId source) r.buffered⟩

end HttpReply

/-- The responses to each kind of call. -/
structure HttpScript where
  start : List HttpReply := []
  status : List HttpReply := []
  candidates : List HttpReply := []
  bulk : List HttpReply := []
  copies : List HttpReply := []
  delete : List HttpReply := []

namespace HttpScript

/-- The first of a list of responses, and the others. -/
def takeReply : List HttpReply → HttpReply × List HttpReply
  | [] => ({ error := some unscripted }, [])
  | r :: rest => (r, rest)

/-- Takes the response to a call. -/
def take (s : HttpScript) : BackendCall → HttpReply × HttpScript
  | .startSync _ => let r := takeReply s.start; (r.1, { s with start := r.2 })
  | .syncStatus => let r := takeReply s.status; (r.1, { s with status := r.2 })
  | .listCandidates _ _ => let r := takeReply s.candidates; (r.1, { s with candidates := r.2 })
  | .bulkDelete _ _ => let r := takeReply s.bulk; (r.1, { s with bulk := r.2 })
  | .crossServerMatches _ => let r := takeReply s.copies; (r.1, { s with copies := r.2 })
  | .deleteLibraryItem _ _ => let r := takeReply s.delete; (r.1, { s with delete := r.2 })

/-- Takes the reply to a call. -/
def ask (s : HttpScript) (c : BackendCall) : Reply (Timed c) × HttpScript :=
  ((s.take c).1.interpret c, (s.take c).2)

instance : Answers HttpScript := ⟨ask⟩

end HttpScript

end MediaMonitor.Scenario
