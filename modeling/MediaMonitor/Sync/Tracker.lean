import MediaMonitor.Error
import MediaMonitor.Sync.Table

/-!
# The sync tracker

One task polls the backend for all rules.  It is idle while no rule is tracked.  The registration
that makes the table non-empty sets its timer to one interval; when the timer runs out it asks for a
snapshot, and when the reply has come, be it an error, it sets the timer again as long as a rule is
tracked.  Registrations queue up while a request is outstanding, and are otherwise taken before the
timer is looked at; cancellation comes before both.
-/

namespace MediaMonitor

/-- What the polling task waits for; times are in milliseconds. -/
inductive TrackerPhase where
  /-- A registration. -/
  | idle
  /-- The time of the next request, or a registration. -/
  | waiting (due : Nat)
  /-- The reply to a request. -/
  | polling
  /-- Nothing: the task is over. -/
  | stopped
  deriving DecidableEq, Repr

/-- The tracker: the polling task, its table, and what its owner has handed to it. -/
structure Tracker where
  interval : Nat
  table : SyncTable := {}
  /-- The registrations not yet taken, the oldest first. -/
  queue : List SyncOperation := []
  /-- The published copy of the table. -/
  view : TrackerView := {}
  /-- How often the copy was published. -/
  publications : Nat := 0
  phase : TrackerPhase := .idle
  cancelled : Bool := false

instance : Inhabited Tracker := ⟨{ interval := 0 }⟩

namespace Tracker

/-- Publishes the table. -/
def publish (t : Tracker) : Tracker :=
  { t with view := t.table.view, publications := t.publications + 1 }

/-- The owner hands over an operation. -/
def track (t : Tracker) (op : SyncOperation) : Except MaintenanceError Tracker :=
  if op.keys = [] then
    .error (.validation ("Rule " ++ Text.ofInt op.ruleId.toInt ++ " has no sync keys to track"))
  else if t.phase = .stopped then .error .cancelled
  else .ok { t with queue := t.queue ++ [op] }

/-- The owner shuts the tracker down. -/
def shutdown (t : Tracker) : Tracker := { t with cancelled := true }

/-- Takes a registration into the table. -/
def register (t : Tracker) (op : SyncOperation) : Tracker :=
  publish { t with table := t.table.insert op }

/-- What the task does by itself. -/
inductive Turn where
  /-- It stops. -/
  | stop
  /-- It takes the oldest registration. -/
  | register
  /-- It asks for a snapshot. -/
  | request
  deriving DecidableEq, Repr

/-- What the task does next at a time, if anything. -/
def turn? (t : Tracker) (now : Nat) : Option Turn :=
  match t.phase with
  | .stopped => none
  | .polling => if t.cancelled then some .stop else none
  | .idle =>
      if t.cancelled then some .stop
      else if t.queue = [] then none
      else some .register
  | .waiting due =>
      if t.cancelled then some .stop
      else if t.queue ≠ [] then some .register
      else if due ≤ now then some .request
      else none

/-- The tracker after a turn at a time. -/
def take (t : Tracker) (now : Nat) : Turn → Tracker
  | .stop => { t with phase := .stopped }
  | .register =>
      match t.queue with
      | [] => t
      | op :: rest =>
          let phase := match t.phase with
            | .waiting due => .waiting due
            | _ => .waiting (now + t.interval)
          register { t with queue := rest, phase := phase } op
  | .request => { t with phase := .polling }

/-- Waits again, if there is something to wait for. -/
def rearm (t : Tracker) (now : Nat) : Tracker :=
  { t with phase := if t.table.isEmpty then .idle else .waiting (now + t.interval) }

/-- Takes the reply to a request, which comes at a time: the tracker after it, and what observers
are told. -/
def reply (t : Tracker) (now : Nat) (answer : Except MaintenanceError SyncSnapshot) :
    Tracker × List Event :=
  if t.phase ≠ .polling then (t, [])
  else match answer with
    | .error _ => (t.rearm now, [])
    | .ok snapshot =>
        let (report, table) := t.table.applySnapshot snapshot
        ((publish { t with table := table }).rearm now, report.events)

/-- The status line of a rule. -/
def status? (t : Tracker) (ruleId : Int64) : Option String := t.view.statuses.find? ruleId

/-- The rule is tracked. -/
def isTracking (t : Tracker) (ruleId : Int64) : Bool := t.view.tracked.contains ruleId

end Tracker

end MediaMonitor
