import MediaMonitor.Deletion.Outcome

/-!
# Events

What the monitor tells its observers: the course of a rule's syncs, the course of a deletion, and
that a list of candidates or a selection is out of date.  Every event has a description and a
severity.
-/

namespace MediaMonitor

/-- The course of a rule's syncs. -/
inductive SyncEvent where
  /-- The syncs with these keys are in flight. -/
  | started (ruleId : Int64) (keys : List String)
  /-- The sync of one library could not be started. -/
  | startFailed (ruleId : Int64) (library message : String)
  /-- The rule has a new status line. -/
  | progress (ruleId : Int64) (message : String)
  /-- Every sync is over; the candidates may have been refetched. -/
  | completed (ruleId : Int64) (refreshed : Bool)
  /-- The syncs of these libraries ended in error. -/
  | failed (ruleId : Int64) (message : String) (libraries : List String)
  deriving DecidableEq, Repr

/-- The course of a deletion. -/
inductive DeletionEvent where
  | started (runId : String) (ruleId : Int64) (total : UInt64)
  | progress (runId : String) (p : DeleteProgress)
  | finished (runId : String) (kind : OutcomeKind) (message : String)
  | aborted (runId : String)
  deriving DecidableEq, Repr

/-- What is out of date. -/
inductive LibraryEvent where
  | candidatesStale (ruleId : Int64)
  | selectionCleared (ruleId : Int64)
  deriving DecidableEq, Repr

/-- An event. -/
inductive Event where
  | sync (e : SyncEvent)
  | deletion (e : DeletionEvent)
  | library (e : LibraryEvent)
  deriving DecidableEq, Repr

/-- How much an event matters. -/
inductive Severity where
  | debug
  | info
  | warning
  | error
  deriving DecidableEq, Repr, Inhabited

namespace Severity

/-- The place of a severity among the others. -/
def rank : Severity → Nat
  | .debug => 0
  | .info => 1
  | .warning => 2
  | .error => 3

instance : LE Severity := ⟨fun a b => a.rank ≤ b.rank⟩
instance (a b : Severity) : Decidable (a ≤ b) := inferInstanceAs (Decidable (a.rank ≤ b.rank))

/-- The name of a severity. -/
def name : Severity → String
  | .debug => "Debug"
  | .info => "Info"
  | .warning => "Warning"
  | .error => "Error"

/-- Decodes a severity. -/
def ofJson? : Json → Option Severity :=
  Json.choice? ([debug, info, warning, error].map (fun s => (s.name, s)))

end Severity

/-- The domain an event belongs to. -/
inductive EventDomain where
  | sync
  | deletion
  | library
  deriving DecidableEq, Repr, Inhabited

namespace EventDomain

/-- The name of a domain. -/
def name : EventDomain → String
  | .sync => "Sync"
  | .deletion => "Deletion"
  | .library => "Library"

/-- Decodes a domain. -/
def ofJson? : Json → Option EventDomain :=
  Json.choice? ([sync, deletion, library].map (fun d => (d.name, d)))

end EventDomain

namespace SyncEvent

/-- What an event says, in words. -/
def description : SyncEvent → String
  | started .. => "Library sync started"
  | startFailed .. => "Library sync could not be started"
  | progress .. => "Library sync in progress"
  | completed .. => "Library sync completed"
  | failed .. => "Library sync failed"

/-- Encodes an event. -/
def toJson : SyncEvent → Json
  | started ruleId keys => .object [("event", .string "Started"),
      ("rule_id", Json.ofInt64 ruleId), ("keys", Json.ofList .string keys)]
  | startFailed ruleId library message => .object [("event", .string "StartFailed"),
      ("rule_id", Json.ofInt64 ruleId), ("library", .string library), ("message", .string message)]
  | progress ruleId message => .object [("event", .string "Progress"),
      ("rule_id", Json.ofInt64 ruleId), ("message", .string message)]
  | completed ruleId refreshed => .object [("event", .string "Completed"),
      ("rule_id", Json.ofInt64 ruleId), ("refreshed", .bool refreshed)]
  | failed ruleId message libraries => .object [("event", .string "Failed"),
      ("rule_id", Json.ofInt64 ruleId), ("message", .string message),
      ("libraries", Json.ofList .string libraries)]

end SyncEvent

namespace DeletionEvent

/-- What an event says, in words. -/
def description : DeletionEvent → String
  | started .. => "Deletion started"
  | progress .. => "Deletion in progress"
  | finished .. => "Deletion finished"
  | aborted .. => "Deletion aborted"

/-- Encodes an event. -/
def toJson : DeletionEvent → Json
  | started runId ruleId total => .object [("event", .string "Started"),
      ("run_id", .string runId), ("rule_id", Json.ofInt64 ruleId), ("total", Json.ofUInt64 total)]
  | progress runId p => .object [("event", .string "Progress"),
      ("run_id", .string runId), ("current", Json.ofUInt64 p.current),
      ("total", Json.ofUInt64 p.total), ("deleted", Json.ofUInt64 p.deleted),
      ("failed", Json.ofUInt64 p.failed), ("skipped", Json.ofUInt64 p.skipped),
      ("reclaimed_bytes", Json.ofUInt64 p.reclaimedBytes)]
  | finished runId kind message => .object [("event", .string "Finished"),
      ("run_id", .string runId), ("kind", .string kind.name), ("message", .string message)]
  | aborted runId => .object [("event", .string "Aborted"), ("run_id", .string runId)]

end DeletionEvent

namespace LibraryEvent

/-- What an event says, in words. -/
def description : LibraryEvent → String
  | candidatesStale _ => "Candidate list is stale"
  | selectionCleared _ => "Candidate selection cleared"

/-- Encodes an event. -/
def toJson : LibraryEvent → Json
  | candidatesStale ruleId => .object [("event", .string "CandidatesStale"),
      ("rule_id", Json.ofInt64 ruleId)]
  | selectionCleared ruleId => .object [("event", .string "SelectionCleared"),
      ("rule_id", Json.ofInt64 ruleId)]

end LibraryEvent

namespace Event

/-- The domain of an event. -/
def domain : Event → EventDomain
  | sync _ => .sync
  | deletion _ => .deletion
  | library _ => .library

/-- What an event says, in words. -/
def description : Event → String
  | sync e => e.description
  | deletion e => e.description
  | library e => e.description

/-- How much an event matters. -/
def severity : Event → Severity
  | sync (.failed ..) => .error
  | sync (.startFailed ..) => .warning
  | sync (.completed ..) => .info
  | deletion (.finished _ .success _) => .info
  | deletion (.finished _ .partly _) => .warning
  | deletion (.finished _ .error _) => .error
  | _ => .debug

/-- Encodes an event. -/
def toJson (e : Event) : Json :=
  .object [("type", .string e.domain.name),
    ("payload", match e with
      | sync e => e.toJson
      | deletion e => e.toJson
      | library e => e.toJson)]

end Event

end MediaMonitor
