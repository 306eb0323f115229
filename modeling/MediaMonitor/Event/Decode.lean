import MediaMonitor.Event.Basic
import MediaMonitor.Json.Writer

/-!
# Decoding events

An event is an object with a `type` and a `payload`, or an array of the two; other members are
ignored.  The payload is an object with an `event` and the event's fields, or an array of them.  All
that the payload holds is kept while its event is looked for, so all of it must be readable.  When
the payload comes first, the event may also be given by its place in the list of events.
-/

namespace MediaMonitor

/-- The name of an event within its domain, and what decodes its fields. -/
structure EventForm (α : Type) where
  name : String
  layout : List Json.FieldNames
  decode? : List (Option Json) → Option α

namespace EventForm

/-- Decodes the fields of an event. -/
def ofFields? (form : EventForm α) (j : Json) : Option α :=
  (Json.fields? form.layout j).bind form.decode?

/-- The form that a name, or a place in the list, stands for. -/
def choose? (forms : List (EventForm α)) (byPlace : Bool) : Json → Option (EventForm α)
  | .string s => forms.find? (fun f => f.name = s)
  | .integer i => if byPlace ∧ 0 ≤ i then forms[i.toNat]? else none
  | _ => none

/-- Decodes a payload. -/
def ofPayload? (forms : List (EventForm α)) (byPlace : Bool) : Json → Option α
  | .object members =>
      match Json.named "event" members with
      | [tag] => do
          let form ← choose? forms byPlace tag
          form.ofFields? (.object (members.filter (fun m => m.1 ≠ "event")))
      | _ => none
  | .array (tag :: rest) => do
      let form ← choose? forms byPlace tag
      form.ofFields? (.array rest)
  | _ => none

end EventForm

/-- Decodes the kind of a finished deletion; in a payload, an empty object may stand for null. -/
def OutcomeKind.ofPayload? : Json → Option OutcomeKind
  | .object [(s, .object [])] => ofJson? (.string s)
  | j => ofJson? j

open Json in
/-- The events of syncs. -/
def SyncEvent.forms : List (EventForm SyncEvent) := [
  ⟨"Started", [["rule_id"], ["keys"]], fun
    | [ruleId, keys] =>
        return .started (← required int64? ruleId) (← required (list? string?) keys)
    | _ => none⟩,
  ⟨"StartFailed", [["rule_id"], ["library"], ["message"]], fun
    | [ruleId, library, message] =>
        return .startFailed (← required int64? ruleId) (← required string? library)
          (← required string? message)
    | _ => none⟩,
  ⟨"Progress", [["rule_id"], ["message"]], fun
    | [ruleId, message] =>
        return .progress (← required int64? ruleId) (← required string? message)
    | _ => none⟩,
  ⟨"Completed", [["rule_id"], ["refreshed"]], fun
    | [ruleId, refreshed] =>
        return .completed (← required int64? ruleId) (← required bool? refreshed)
    | _ => none⟩,
  ⟨"Failed", [["rule_id"], ["message"], ["libraries"]], fun
    | [ruleId, message, libraries] =>
        return .failed (← required int64? ruleId) (← required string? message)
          (← required (list? string?) libraries)
    | _ => none⟩]

open Json in
/-- The events of deletions. -/
def DeletionEvent.forms : List (EventForm DeletionEvent) := [
  ⟨"Started", [["run_id"], ["rule_id"], ["total"]], fun
    | [runId, ruleId, total] =>
        return .started (← required string? runId) (← required int64? ruleId)
          (← required uint64? total)
    | _ => none⟩,
  ⟨"Progress", [["run_id"], ["current"], ["total"], ["deleted"], ["failed"], ["skipped"],
      ["reclaimed_bytes"]], fun
    | [runId, current, total, deleted, failed, skipped, reclaimedBytes] =>
        return .progress (← required string? runId) {
          current := ← required uint64? current
          total := ← required uint64? total
          deleted := ← required uint64? deleted
          failed := ← required uint64? failed
          skipped := ← required uint64? skipped
          reclaimedBytes := ← required uint64? reclaimedBytes }
    | _ => none⟩,
  ⟨"Finished", [["run_id"], ["kind"], ["message"]], fun
    | [runId, kind, message] =>
        return .finished (← required string? runId) (← required OutcomeKind.ofPayload? kind)
          (← required string? message)
    | _ => none⟩,
  ⟨"Aborted", [["run_id"]], fun
    | [runId] => return .aborted (← required string? runId)
    | _ => none⟩]

open Json in
/-- The events of candidate lists. -/
def LibraryEvent.forms : List (EventForm LibraryEvent) := [
  ⟨"CandidatesStale", [["rule_id"]], fun
    | [ruleId] => return .candidatesStale (← required int64? ruleId)
    | _ => none⟩,
  ⟨"SelectionCleared", [["rule_id"]], fun
    | [ruleId] => return .selectionCleared (← required int64? ruleId)
    | _ => none⟩]

namespace Event

/-- Decodes the payload of an event of a domain. -/
def ofPayload? (domain : EventDomain) (byPlace : Bool) (payload : Json) : Option Event := do
  let payload ← payload.settle? (Json.greatestDepth - 1)
  match domain with
  | .sync => return .sync (← EventForm.ofPayload? SyncEvent.forms byPlace payload)
  | .deletion => return .deletion (← EventForm.ofPayload? DeletionEvent.forms byPlace payload)
  | .library => return .library (← EventForm.ofPayload? LibraryEvent.forms byPlace payload)

/-- Decodes an event. -/
def ofJson? : Json → Option Event
  | .object members =>
      match members.filter (fun m => m.1 = "type" ∨ m.1 = "payload") with
      | [(k, a), (l, b)] =>
          if k = "type" ∧ l = "payload" then do ofPayload? (← EventDomain.ofJson? a) false b
          else if k = "payload" ∧ l = "type" then do ofPayload? (← EventDomain.ofJson? b) true a
          else none
      | _ => none
  | .array [tag, payload] => do ofPayload? (← EventDomain.ofJson? tag) false payload
  | _ => none

end Event

end MediaMonitor
