import MediaMonitor.Candidate.Browser
import MediaMonitor.Deletion.Coordinator
import MediaMonitor.Deletion.CrossServer
import MediaMonitor.Event.Bus
import MediaMonitor.Http.Backend
import MediaMonitor.Settings
import MediaMonitor.Sync.Tracker

/-!
# The maintenance service

All parts of the monitor under one roof: the backend over HTTP, the event bus, the sync tracker and
the deletion coordinator.  What a launch has in flight is handed to the tracker; what a browser has
selected is handed to the coordinator, and the browser fetches its page again when anything may have
changed.
-/

namespace MediaMonitor

/-- A service that has just been opened. -/
structure Service where
  settings : Settings
  backend : HttpBackend
  bus : Bus Event
  tracker : Tracker
  coordinator : Coordinator := {}

namespace Service

/-- Opens a service, whose tracker needs a runtime for its task.  There is neither a service nor an
error when the settings are valid and there is no room for the event bus. -/
def start? (settings : Settings) (insideRuntime : Bool) : Option (Except ServiceError Service) :=
  match settings.validate with
  | .error e => some (.error (.settings e))
  | .ok () =>
      if !insideRuntime then
        some (.error (.initializationFailed
          "MaintenanceService must be created inside a tokio runtime"))
      else
        (Bus.ofCapacity? settings.eventBufferSize.toNat).map (fun bus => .ok {
          settings := settings
          backend := .ofUrl settings.baseUrl settings.apiKey settings.requestTimeout
          bus := bus
          tracker := { interval := settings.pollInterval.millis } })

/-- Hands what a launch has in flight to the tracker. -/
def handOver (t : Tracker) (rule : Rule) (launched : Except MaintenanceError LaunchReport) :
    Except MaintenanceError LaunchReport × Tracker :=
  match launched with
  | .error e => (.error e, t)
  | .ok report =>
      match t.track (.ofLaunch rule report) with
      | .ok t => (.ok report, t)
      | .error e => (.error e, t)

/-- What a browser submits for deletion: its rule and its selected ids. -/
def submission (b : Browser) : Except MaintenanceError (Int64 × List Int64) :=
  if b.selection.isEmpty then .error (.validation "No candidates selected")
  else .ok (b.ruleId, b.selection.ids)

/-- The browser after a deletion: when anything may have changed, its selection is cleared and its
page fetched again. -/
def afterDelete (b : Browser) (r : RunResult) : Procedure Browser :=
  match r with
  | .error _ => return b
  | .ok outcome =>
      if outcome.needsRefresh then do
        let (_, b) ← b.clearSelection.refresh
        return b
      else return b

/-- Deletes what a browser has selected, given the means to run a deletion to its end and to carry
out a procedure: what the deletion came to, and the browser after it. -/
def deleteSelected {m : Type → Type} [Monad m] (run : Int64 → List Int64 → m RunResult)
    (perform : Procedure Browser → m Browser) (b : Browser) : m (RunResult × Browser) :=
  match submission b with
  | .error e => return (.error e, b)
  | .ok (ruleId, ids) => do
      let result ← run ruleId ids
      let b ← perform (afterDelete b result)
      return (result, b)

end Service

end MediaMonitor
