import MediaMonitor.Scenario.World
import MediaMonitor.Service

/-!
# A service in virtual time

The operations of a service over a scripted transport, each carried out to its end while the clock
runs.
-/

namespace MediaMonitor.Scenario

/-- A service that has just been opened, over scripted responses. -/
def ofService (s : MediaMonitor.Service) (script : HttpScript) : World HttpScript where
  backend := script
  bus := s.bus
  tracker := s.tracker
  coordinator := s.coordinator

namespace World

variable {β : Type} [Answers β]

/-- Starts the syncs of a rule and tracks them. -/
def sync (w : World β) (rule : Rule) : Except MaintenanceError LaunchReport × World β :=
  let (launched, w) := w.launch rule
  let (result, tracker) := Service.handOver w.tracker rule launched
  (result, { w with tracker := tracker }.settle)

/-- Runs a deletion to its end; the active run may be cancelled at a time. -/
def runDeletion (cancelAt : Option Nat) (ruleId : Int64) (ids : List Int64) :
    StateM (World β) RunResult := fun w =>
  match w.startRun ruleId ids with
  | (.error e, w) => (.error e, w)
  | (.ok n, w) =>
      let w := w.await n (cancelAt.map .cancel)
      ((w.result? n).getD (.error .cancelled), w)

/-- Deletes what a browser has selected; a cancellation may come at a time, which is waited for. -/
def deleteSelected (w : World β) (b : Browser) (cancelAt : Option Nat) :
    RunResult × Browser × World β :=
  let ((result, b), w) := Service.deleteSelected (runDeletion cancelAt) (fun p w => w.perform p) b w
  let finish : World β :=
    match cancelAt with
    | some t => if w.now < t then ((w.advanceTo t).act .cancel).2.settle else w
    | none => w
  (result, b, finish)

/-- Deletes an item and chosen copies of it. -/
def deleteWithMatches (w : World β) (source : Candidate) (selected : List CrossServerMatch) :
    CrossServer.Result × World β :=
  let n := w.crossRuns + 1
  { w with crossRuns := n }.perform (CrossServer.delete (CrossServer.runId n) source selected)

/-- Stops the polling and aborts the deletion in flight. -/
def shutdown (w : World β) : World β :=
  ({ w with tracker := w.tracker.shutdown }.act .cancel).2.settle

end World

end MediaMonitor.Scenario
