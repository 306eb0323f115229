import MediaMonitor.Json.Reader
import MediaMonitor.Json.Record
import MediaMonitor.Sync.Key

/-!
# Sync status

What the backend says about the syncs in flight: a job for each encoded sync key, in one of four
phases.
-/

namespace MediaMonitor

/-- The phase of a sync job. -/
inductive SyncPhase where
  | items
  | history
  | done
  | error
  deriving DecidableEq, Repr, Inhabited

namespace SyncPhase

/-- The job is still at work. -/
def isActive : SyncPhase → Bool
  | .items | .history => true
  | .done | .error => false

/-- The name of a phase. -/
def name : SyncPhase → String
  | .items => "items"
  | .history => "history"
  | .done => "done"
  | .error => "error"

/-- Decodes a phase. -/
def ofJson? : Json → Option SyncPhase :=
  Json.choice? ([items, history, done, error].map (fun p => (p.name, p)))

end SyncPhase

/-- The state of a sync job. -/
structure SyncJobState where
  phase : SyncPhase
  current : Option UInt64
  total : Option UInt64
  error : Option String
  deriving DecidableEq, Repr, Inhabited

namespace SyncJobState

/-- The fields of a job. -/
def layout : List Json.FieldNames := [["phase"], ["current"], ["total"], ["error"]]

/-- Decodes a job. -/
def ofJson? (j : Json) : Option SyncJobState := do
  match ← Json.fields? layout j with
  | [phase, current, total, error] =>
      return {
        phase := ← Json.required SyncPhase.ofJson? phase
        current := ← Json.optional Json.uint64? current
        total := ← Json.optional Json.uint64? total
        error := ← Json.optional Json.string? error }
  | _ => none

/-- Encodes a job. -/
def toJson (s : SyncJobState) : Json := .object [
  ("phase", .string s.phase.name),
  ("current", Json.ofOption Json.ofUInt64 s.current),
  ("total", Json.ofOption Json.ofUInt64 s.total),
  ("error", Json.ofOption .string s.error)]

end SyncJobState

/-- All the jobs in flight, by their encoded keys. -/
structure SyncSnapshot where
  jobs : SortedMap String SyncJobState
  deriving Inhabited

namespace SyncSnapshot

/-- The job of a key. -/
def get? (s : SyncSnapshot) (key : SyncKey) : Option SyncJobState := s.jobs.find? key.encode

/-- Decodes a snapshot. -/
def ofJson? (j : Json) : Option SyncSnapshot := (Json.map? SyncJobState.ofJson? j).map .mk

/-- Encodes a snapshot. -/
def toJson (s : SyncSnapshot) : Json :=
  .object (s.jobs.entries.map (fun e => (e.1, e.2.toJson)))

/-- Decodes the text of a snapshot. -/
def ofText? (text : String) : Option SyncSnapshot := (Json.ofText? text).bind ofJson?

end SyncSnapshot

end MediaMonitor
