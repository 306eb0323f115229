import MediaMonitor.Event.Basic
import MediaMonitor.Sync.Operation

/-!
# Launching syncs

A launch asks the backend to start one sync for each library of a rule, all of them at once.  A sync
that already runs is joined.  When every reply has come, the launch concludes with a report, or with
an error when no sync is in flight; the order in which the replies came makes no difference.
-/

namespace MediaMonitor

/-- The backend's answer to the request to start a sync. -/
inductive StartReply where
  | started
  | alreadyRunning
  deriving DecidableEq, Repr, Inhabited

/-- A library whose sync could not be started. -/
structure StartFailure where
  key : SyncKey
  libraryName : String
  message : String
  deriving DecidableEq, Repr

/-- The syncs in flight for a rule, and those that could not be started. -/
structure LaunchReport where
  ruleId : Int64
  started : List SyncKey := []
  joined : List SyncKey := []
  failures : List StartFailure := []
  deriving DecidableEq, Repr

namespace LaunchReport

/-- The keys in flight: those started, then those joined. -/
def trackedKeys (r : LaunchReport) : List SyncKey := r.started ++ r.joined

end LaunchReport

/-- The operation that waits for all that a launch has in flight. -/
def SyncOperation.ofLaunch (rule : Rule) (r : LaunchReport) : SyncOperation :=
  .ofKeys rule.id (r.trackedKeys.map (fun k => ⟨k, rule.libraryName k⟩))

/-- What became of one library. -/
inductive StartResult where
  | started
  | joined
  | failed (message : String)
  deriving DecidableEq, Repr

namespace StartResult

/-- What a reply means: a conflict says that the sync already runs. -/
def ofReply : Except MaintenanceError StartReply → StartResult
  | .ok .started => .started
  | .ok .alreadyRunning => .joined
  | .error e => if e.isConflict then .joined else .failed e.message

end StartResult

/-- A launch: the distinct libraries of its rule, and the replies that have come. -/
structure Launch where
  rule : Rule
  replies : List (LibraryRef × Option (Except MaintenanceError StartReply))

namespace Launch

/-- Begins a launch, which needs a library. -/
def start (rule : Rule) : Except MaintenanceError Launch :=
  if rule.distinctLibraries = [] then
    .error (.validation ("Rule '" ++ rule.name ++ "' has no libraries to sync"))
  else .ok ⟨rule, rule.distinctLibraries.map (fun l => (l, none))⟩

/-- The keys of the syncs to start. -/
def calls (l : Launch) : List SyncKey := l.replies.map (fun r => r.1.syncKey)

/-- Takes the reply to the `n`-th call. -/
def answer (l : Launch) (n : Nat) (reply : Except MaintenanceError StartReply) : Launch :=
  { l with replies := l.replies.modify n (fun r => (r.1, some reply)) }

/-- The libraries with what became of them, once every reply has come. -/
def results? (l : Launch) : Option (List (LibraryRef × StartResult)) :=
  l.replies.mapM (fun r => r.2.map (fun reply => (r.1, .ofReply reply)))

/-- The report of the results. -/
def reportOf (rule : Rule) (results : List (LibraryRef × StartResult)) : LaunchReport where
  ruleId := rule.id
  started := results.filterMap (fun r => match r.2 with
    | .started => some r.1.syncKey
    | _ => none)
  joined := results.filterMap (fun r => match r.2 with
    | .joined => some r.1.syncKey
    | _ => none)
  failures := results.filterMap (fun r => match r.2 with
    | .failed message => some ⟨r.1.syncKey, r.1.libraryName, message⟩
    | _ => none)

/-- What observers are told of a failure to start. -/
def failureEvent (rule : Rule) (f : StartFailure) : Event :=
  .sync (.startFailed rule.id f.libraryName f.message)

/-- The end of a launch: its report or error, and what observers are told. -/
def conclude (rule : Rule) (results : List (LibraryRef × StartResult)) :
    Except MaintenanceError LaunchReport × List Event :=
  let report := reportOf rule results
  let failures := report.failures.map (failureEvent rule)
  if report.trackedKeys = [] then
    (.error (.allSyncStartsFailed rule.id
      (report.failures.map (fun f => f.libraryName ++ ": " ++ f.message))), failures)
  else
    (.ok report, failures ++ [.sync (.started rule.id (report.trackedKeys.map (·.encode)))])

/-- The end of a launch, once every reply has come. -/
def conclude? (l : Launch) : Option (Except MaintenanceError LaunchReport × List Event) :=
  l.results?.map (conclude l.rule)

end Launch

end MediaMonitor
