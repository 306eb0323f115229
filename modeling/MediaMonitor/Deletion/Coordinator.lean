import MediaMonitor.Deletion.Reading
import MediaMonitor.Distinct
import MediaMonitor.Event.Basic
import MediaMonitor.RunId

/-!
# The deletion coordinator

One coordinator runs the batch deletions of one view.  A new run cancels the one before it.  A run
first waits for the backend's reply, then reads the event stream, and concludes with an outcome; a
run that was cancelled or dropped in between leaves nothing behind but the news that it was aborted.

`Coordinator.step` is the whole machine: any action may come at any time, and one that does not fit
the state of its run has no effect.  Runs are numbered from 1 in the order of their start; the count
has no bound here, since no coordinator starts as many runs as 64 bits can number.  The id of a run
is made from its number.  A random id would do as well: nothing looks into an id, and the runs of a
coordinator need no more than that their ids differ.
-/

namespace MediaMonitor

/-- What a run in flight is at. -/
inductive RunPhase where
  /-- It waits for the reply to its request. -/
  | requesting
  /-- It reads the event stream. -/
  | reading (r : Reading)
  /-- It has an outcome to conclude with. -/
  | concluding (o : DeleteOutcome)
  deriving DecidableEq, Repr

/-- A run in flight. -/
structure DeletionRun where
  number : Nat
  ruleId : Int64
  requested : UInt64
  phase : RunPhase := .requesting
  cancelled : Bool := false
  deriving DecidableEq, Repr

namespace DeletionRun

/-- The id of a run in events. -/
def id (run : DeletionRun) : String := (RunId.mk run.number).text

end DeletionRun

/-- The coordinator of the deletions of one view. -/
structure Coordinator where
  /-- The number of the run started last. -/
  generation : Nat := 0
  /-- The run whose slot is taken. -/
  active : Option Nat := none
  progress : Option DeleteProgress := none
  lastOutcome : Option DeleteOutcome := none
  /-- The runs in flight. -/
  runs : List DeletionRun := []
  deriving DecidableEq, Repr, Inhabited

/-- What a run returns. -/
abbrev RunResult := Except MaintenanceError DeleteOutcome

/-- What can happen to a coordinator. -/
inductive CoordinatorAction where
  /-- A run is started. -/
  | start (ruleId : Int64) (ids : List Int64)
  /-- The reply to a run's request comes: an error, or a body to read. -/
  | reply (run : Nat) (answer : Except MaintenanceError Unit)
  /-- An item of a run's body comes. -/
  | item (run : Nat) (item : BodyItem)
  /-- A run's body comes to its end. -/
  | close (run : Nat)
  /-- A run deals with its next frame. -/
  | frame (run : Nat)
  /-- A run concludes. -/
  | conclude (run : Nat)
  /-- A run notices that it was cancelled. -/
  | notice (run : Nat)
  /-- A run is dropped while it waits. -/
  | drop (run : Nat)
  /-- The active run is cancelled. -/
  | cancel

/-- What an action brings about. -/
structure CoordinatorEffect where
  state : Coordinator
  events : List Event := []
  /-- The run that returned, and what. -/
  returned : Option (Nat × RunResult) := none
  /-- The request that was made: its run, the rule and the distinct ids. -/
  requested : Option (Nat × Int64 × List Int64) := none
  /-- The start was rejected. -/
  rejected : Option MaintenanceError := none

namespace Coordinator

/-- The distinct ids of a list, in the order of first occurrence. -/
def distinct (ids : List Int64) : List Int64 := distinctBy id [] ids

/-- A run is active. -/
def isRunning (c : Coordinator) : Bool := c.active.isSome

/-- A run in flight. -/
def run? (c : Coordinator) (n : Nat) : Option DeletionRun := c.runs.find? (fun r => r.number = n)

/-- Changes a run in flight. -/
def update (c : Coordinator) (n : Nat) (f : DeletionRun → DeletionRun) : Coordinator :=
  { c with runs := c.runs.map (fun r => if r.number = n then f r else r) }

/-- Takes a run out of flight. -/
def remove (c : Coordinator) (n : Nat) : Coordinator :=
  { c with runs := c.runs.filter (fun r => r.number ≠ n) }

/-- Marks the active run as cancelled and frees its slot. -/
def cancelActive (c : Coordinator) : Coordinator :=
  match c.active with
  | some n => { c.update n (fun r => { r with cancelled := true }) with active := none }
  | none => c

/-- A run leaves without an outcome: the slot is freed when it is still the run's own. -/
def release (c : Coordinator) (run : DeletionRun) : Coordinator :=
  (if c.generation = run.number then c.cancelActive else c).remove run.number

/-- A run is aborted; unless it was dropped, it returns. -/
def abort (c : Coordinator) (run : DeletionRun) (returns : Bool) : CoordinatorEffect where
  state := c.release run
  events := [.deletion (.aborted run.id)]
  returned := if returns then some (run.number, .error .cancelled) else none

/-- Starts a run. -/
def start (c : Coordinator) (ruleId : Int64) (ids : List Int64) : CoordinatorEffect :=
  match distinct ids with
  | [] =>
      { state := c, rejected := some (.validation "Select at least one candidate to delete") }
  | ids =>
      let requested := UInt64.ofNat ids.length
      let c := c.cancelActive
      let run : DeletionRun :=
        { number := c.generation + 1, ruleId := ruleId, requested := requested }
      { state := { c with
          generation := run.number
          active := some run.number
          progress := some (.zero requested)
          runs := c.runs ++ [run] }
        events := [.deletion (.started run.id ruleId requested)]
        requested := some (run.number, ruleId, ids) }

/-- The outcome of a read that was not cancelled. -/
def outcomeOf (requested : UInt64) (report : StreamReport) : DeleteOutcome :=
  match report.stop, report.result with
  | .finished, some result => .classify (.ofResult requested result)
  | .failed reason, _ => .transportFailure requested reason
  | _, _ => .transportFailure requested "stream ended before the final result"

/-- Goes on after a step of a run's read: a read that stopped leads to an outcome, or, when it was
cancelled, ends the run. -/
def afterRead (c : Coordinator) (run : DeletionRun) (r : Reading) (events : List Event) :
    CoordinatorEffect :=
  if r.stopped then
    if r.report.stop = .cancelled then
      let effect := c.abort run true
      { effect with events := events ++ effect.events }
    else
      { state := c.update run.number (fun x =>
          { x with phase := .concluding (outcomeOf run.requested r.report) })
        events := events }
  else
    { state := c.update run.number (fun x => { x with phase := .reading r }), events := events }

/-- Takes the reply to a run's request. -/
def reply (c : Coordinator) (run : DeletionRun) (answer : Except MaintenanceError Unit) :
    CoordinatorEffect :=
  if run.cancelled then c.abort run true
  else match answer with
    | .ok () => c.afterRead run {} []
    | .error e =>
        { state := c.update run.number (fun x =>
            { x with phase := .concluding (.transportFailure run.requested e.message) }) }

/-- Deals with the next frame of a run: progress is told of only while the run is the latest. -/
def frame (c : Coordinator) (run : DeletionRun) (r : Reading) : CoordinatorEffect :=
  match r.applyNext run.cancelled with
  | (some p, r) =>
      if c.generation = run.number then
        { c with progress := some p }.afterRead run r [.deletion (.progress run.id p)]
      else c.afterRead run r []
  | (none, r) => c.afterRead run r []

/-- What observers are told of an outcome. -/
def finishEvents (run : DeletionRun) (o : DeleteOutcome) : List Event :=
  .deletion (.finished run.id o.kind o.message) ::
    (if o.needsRefresh then
      [.library (.selectionCleared run.ruleId), .library (.candidatesStale run.ruleId)]
    else [])

/-- Concludes a run: it counts only when it is still the latest and was not cancelled. -/
def conclude (c : Coordinator) (run : DeletionRun) (o : DeleteOutcome) : CoordinatorEffect :=
  if c.generation = run.number ∧ !run.cancelled then
    { state := { c.remove run.number with active := none, lastOutcome := some o }
      events := finishEvents run o
      returned := some (run.number, .ok o) }
  else c.abort run true

/-- An action on a run in flight. -/
def stepRun (c : Coordinator) (run : DeletionRun) : CoordinatorAction → CoordinatorEffect
  | .reply _ answer =>
      match run.phase with
      | .requesting => c.reply run answer
      | _ => { state := c }
  | .item _ item =>
      match run.phase with
      | .reading r =>
          if !r.isWaiting then { state := c }
          else if run.cancelled then c.abort run true
          else c.afterRead run (r.deliver item) []
      | _ => { state := c }
  | .close _ =>
      match run.phase with
      | .reading r =>
          if !r.isWaiting then { state := c }
          else if run.cancelled then c.abort run true
          else c.afterRead run r.close []
      | _ => { state := c }
  | .frame _ =>
      match run.phase with
      | .reading r => if r.pending = [] then { state := c } else c.frame run r
      | _ => { state := c }
  | .conclude _ =>
      match run.phase with
      | .concluding o => c.conclude run o
      | _ => { state := c }
  | .notice _ =>
      if !run.cancelled then { state := c }
      else match run.phase with
        | .requesting => c.abort run true
        | .reading r => if r.isWaiting then c.abort run true else { state := c }
        | .concluding _ => { state := c }
  | .drop _ =>
      match run.phase with
      | .requesting => c.abort run false
      | .reading r => if r.isWaiting then c.abort run false else { state := c }
      | .concluding _ => { state := c }
  | _ => { state := c }

/-- The run an action is about. -/
def subject? : CoordinatorAction → Option Nat
  | .start .. => none
  | .reply n _ => some n
  | .item n _ => some n
  | .close n => some n
  | .frame n => some n
  | .conclude n => some n
  | .notice n => some n
  | .drop n => some n
  | .cancel => none

/-- What an action brings about. -/
def step (c : Coordinator) (action : CoordinatorAction) : CoordinatorEffect :=
  match action with
  | .start ruleId ids => c.start ruleId ids
  | .cancel => { state := c.cancelActive }
  | action =>
      match (subject? action).bind c.run? with
      | some run => c.stepRun run action
      | none => { state := c }

end Coordinator

end MediaMonitor
