import MediaMonitor.Library.Rule
import MediaMonitor.Sync.Status

/-!
# Sync operations

The syncs one rule waits for, each under the name of its library, and what a snapshot says about
them: a status line as long as one of them is at work, and the libraries whose sync ended in error.
-/

namespace MediaMonitor

/-- A sync that is waited for, and the name of its library. -/
structure TrackedKey where
  key : SyncKey
  libraryName : String
  deriving DecidableEq, Repr, Inhabited

/-- The sync of one library that ended in error. -/
structure KeyError where
  libraryName : String
  message : String
  deriving DecidableEq, Repr, Inhabited

/-- The syncs a rule waits for. -/
structure SyncOperation where
  ruleId : Int64
  keys : List TrackedKey
  deriving DecidableEq, Repr, Inhabited

namespace SyncJobState

/-- The line that describes a job at work. -/
def line (s : SyncJobState) : String :=
  let label := if s.phase = .history then "Syncing watch history" else "Syncing items"
  match s.current, s.total with
  | some current, some total =>
      label ++ " " ++ Text.ofNat current.toNat ++ "/" ++ Text.ofNat total.toNat
  | _, _ => label ++ "..."

end SyncJobState

namespace SyncOperation

/-- Adds a key to a list of distinct keys, unless it is there. -/
def addKey (keys : List TrackedKey) (k : TrackedKey) : List TrackedKey :=
  if keys.any (fun t => t.key = k.key) then keys else keys ++ [k]

/-- Adds keys; a key that is there keeps its place and name. -/
def merge (op : SyncOperation) (keys : List TrackedKey) : SyncOperation :=
  { op with keys := keys.foldl addKey op.keys }

/-- The operation that waits for the given keys. -/
def ofKeys (ruleId : Int64) (keys : List TrackedKey) : SyncOperation := merge ⟨ruleId, []⟩ keys

/-- The first key whose job is in a phase, and the job. -/
def inPhase? (op : SyncOperation) (s : SyncSnapshot) (phase : SyncPhase) :
    Option (TrackedKey × SyncJobState) :=
  op.keys.findSome? (fun t =>
    (s.get? t.key).bind (fun job => if job.phase = phase then some (t, job) else none))

/-- The line of a rule that waits for several keys names the library. -/
def lineFor (op : SyncOperation) (t : TrackedKey) (job : SyncJobState) : String :=
  if 1 < op.keys.length then t.libraryName ++ ": " ++ job.line else job.line

/-- The status line: that of a key in the items phase or else in the history phase. -/
def status? (op : SyncOperation) (s : SyncSnapshot) : Option String :=
  ((op.inPhase? s .items).or (op.inPhase? s .history)).map (fun r => op.lineFor r.1 r.2)

/-- The error of a key whose job is in the error phase. -/
def keyError? (s : SyncSnapshot) (t : TrackedKey) : Option KeyError :=
  (s.get? t.key).bind (fun job =>
    if job.phase = .error then some ⟨t.libraryName, job.error.getD "Sync failed"⟩ else none)

/-- The errors of all keys, in their order. -/
def errors (op : SyncOperation) (s : SyncSnapshot) : List KeyError :=
  op.keys.filterMap (keyError? s)

end SyncOperation

end MediaMonitor
