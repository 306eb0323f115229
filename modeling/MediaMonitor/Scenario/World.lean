import MediaMonitor.Candidate.Browser
import MediaMonitor.Deletion.Coordinator
import MediaMonitor.Deletion.CrossServer
import MediaMonitor.Event.Subscription
import MediaMonitor.Scenario.Script
import MediaMonitor.Sync.Tracker

/-!
# A monitor in virtual time

A tracker, a coordinator and an event bus over a scripted backend, with a clock in milliseconds that
jumps from one timer to the next.  Whatever can go on without waiting goes on at once; `advanceTo`
moves the clock and lets everything happen that is due by then.
-/

namespace MediaMonitor.Scenario

/-- What a run in flight waits for. -/
inductive RunWait where
  /-- The reply to its request, at a time. -/
  | reply (due : Option Nat) (value : Except MaintenanceError (List Delivery))
  /-- The first of the deliveries, at a time; the end of the body when there are none. -/
  | body (due : Option Nat) (rest : List Delivery)

namespace RunWait

/-- The time at which the wait is over, if ever. -/
def due? : RunWait → Option Nat
  | .reply due _ => due
  | .body due _ => due

/-- How many waits are to follow at most. -/
def size : RunWait → Nat
  | .reply _ (.ok l) => l.length + 2
  | .reply _ (.error _) => 1
  | .body _ l => l.length + 1

end RunWait

/-- A monitor in virtual time. -/
structure World (β : Type) where
  backend : β
  now : Nat := 0
  /-- The calls made so far. -/
  calls : List BackendCall := []
  bus : Bus Event
  tracker : Tracker := { interval := 0 }
  /-- The reply to the tracker's request, and the time at which it comes. -/
  status : Option (Option Nat × Except MaintenanceError SyncSnapshot) := none
  coordinator : Coordinator := {}
  waits : List (Nat × RunWait) := []
  /-- The results of the runs that returned. -/
  returned : List (Nat × RunResult) := []
  /-- The number of deletions across servers so far. -/
  crossRuns : Nat := 0

namespace World

variable {β : Type} [Answers β]

/-- Tells observers of events. -/
def emit (w : World β) (events : List Event) : World β := { w with bus := w.bus.emitAll events }

/-- Makes a call. -/
def ask (w : World β) (c : BackendCall) : Reply (Timed c) × World β :=
  let (reply, backend) := Answers.ask w.backend c
  (reply, { w with backend := backend, calls := w.calls ++ [c] })

/-- The time at which something comes that takes a while. -/
def after (w : World β) (delay : Option Nat) : Option Nat := delay.map (w.now + ·)

/-- The time is reached. -/
def isDue (w : World β) (due : Option Nat) : Bool :=
  match due with
  | some t => t ≤ w.now
  | none => false

/-! ## Runs -/

/-- An action on the coordinator. -/
def act (w : World β) (action : CoordinatorAction) : CoordinatorEffect × World β :=
  let effect := w.coordinator.step action
  (effect, { w.emit effect.events with
    coordinator := effect.state
    returned := w.returned ++ effect.returned.toList })

/-- What a run in flight is at. -/
def phase? (w : World β) (n : Nat) : Option RunPhase :=
  (w.coordinator.run? n).map DeletionRun.phase

/-- Lets a run deal with its frames and conclude, as far as it gets without waiting. -/
def drain (n : Nat) : Nat → World β → World β
  | 0, w => w
  | fuel + 1, w =>
      match w.phase? n with
      | some (.reading r) =>
          if r.pending = [] then w else drain n fuel (w.act (.frame n)).2
      | some (.concluding _) => (w.act (.conclude n)).2
      | _ => w

/-- Takes an action on a run and lets it go on. -/
def actAndDrain (w : World β) (n : Nat) (action : CoordinatorAction) : World β :=
  let w := (w.act action).2
  let pending := match w.phase? n with
    | some (.reading r) => r.pending.length
    | _ => 0
  w.drain n (pending + 2)

/-- Changes what a run waits for. -/
def setWait (w : World β) (n : Nat) (wait : Option RunWait) : World β :=
  let others := w.waits.filter (fun x => x.1 ≠ n)
  { w with waits := match wait with
    | some wait => others ++ [(n, wait)]
    | none => others }

/-- The wait for the first of a list of deliveries. -/
def waitFor (w : World β) (l : List Delivery) : RunWait :=
  match l with
  | [] => .body (some w.now) []
  | d :: _ => .body (if d.item.isSome then some (w.now + d.delay) else none) l

/-- Lets a run go on until it has to wait. -/
def pump (n : Nat) : Nat → World β → World β
  | 0, w => w
  | fuel + 1, w =>
      match w.waits.lookup n with
      | none => w
      | some wait =>
          if (w.coordinator.run? n).isNone then w.setWait n none
          else if !w.isDue wait.due? then w
          else match wait with
            | .reply _ (.error e) => (w.setWait n none).actAndDrain n (.reply n (.error e))
            | .reply _ (.ok l) =>
                pump n fuel ((w.setWait n (some (w.waitFor l))).actAndDrain n (.reply n (.ok ())))
            | .body _ [] => (w.setWait n none).actAndDrain n (.close n)
            | .body _ (d :: rest) =>
                match d.item with
                | none => w
                | some item =>
                    pump n fuel
                      ((w.setWait n (some (w.waitFor rest))).actAndDrain n (.item n item))

/-- Lets a run go on until it has to wait. -/
def pumpRun (w : World β) (n : Nat) : World β :=
  match w.waits.lookup n with
  | some wait => w.pump n (wait.size + 1)
  | none => w

/-- Starts a run; it goes on until it has to wait. -/
def startRun (w : World β) (ruleId : Int64) (ids : List Int64) :
    Except MaintenanceError Nat × World β :=
  let (effect, w) := w.act (.start ruleId ids)
  match effect.requested, effect.rejected with
  | some (n, ruleId, ids), _ =>
      let (reply, w) := w.ask (.bulkDelete ruleId ids)
      (.ok n, (w.setWait n (some (.reply (w.after reply.delay) reply.value))).pumpRun n)
  | none, some e => (.error e, w)
  | none, none => (.error .cancelled, w)

/-- The cancelled runs notice it. -/
def noticeAll (w : World β) : World β :=
  (w.coordinator.runs.filter (·.cancelled)).foldl
    (fun w run => ((w.act (.notice run.number)).2).setWait run.number none) w

/-! ## The tracker -/

/-- Lets the tracker go on until it has to wait. -/
def pumpTracker : Nat → World β → World β
  | 0, w => w
  | fuel + 1, w =>
      match w.tracker.turn? w.now with
      | some .request =>
          let (reply, w') := w.ask .syncStatus
          pumpTracker fuel { w' with
            tracker := w.tracker.take w.now .request
            status := some (w.after reply.delay, reply.value) }
      | some turn =>
          let status := if turn = .stop then none else w.status
          pumpTracker fuel { w with tracker := w.tracker.take w.now turn, status := status }
      | none =>
          match w.status with
          | some (due, answer) =>
              if w.isDue due then
                let (tracker, events) := w.tracker.reply w.now answer
                pumpTracker fuel { w.emit events with tracker := tracker, status := none }
              else w
          | none => w

/-! ## Time -/

/-- Lets everything go on that can without waiting. -/
def settle (w : World β) : World β :=
  let w := w.pumpTracker (2 * w.tracker.queue.length + 8)
  let w := w.waits.foldl (fun w x => w.pumpRun x.1) w
  w.noticeAll

/-- The times at which something may happen. -/
def dueTimes (w : World β) : List Nat :=
  (match w.tracker.phase with
    | .waiting due => [due]
    | _ => []) ++
  (match w.status with
    | some (some due, _) => [due]
    | _ => []) ++
  w.waits.filterMap (fun x => x.2.due?)

/-- The next time at which something happens, after now and not after a given time. -/
def nextTime? (w : World β) (time : Nat) : Option Nat :=
  ((w.dueTimes.filter (fun t => w.now < t ∧ t ≤ time)).mergeSort (· ≤ ·)).head?

/-- Moves the clock to a time in at most so many jumps. -/
def advanceWithin (time : Nat) : Nat → World β → World β
  | 0, w => ({ w with now := max w.now time }).settle
  | fuel + 1, w =>
      match w.nextTime? time with
      | some t => advanceWithin time fuel ({ w with now := t }).settle
      | none => ({ w with now := max w.now time }).settle

/-- Moves the clock to a time, and lets everything happen that is due by then. -/
def advanceTo (w : World β) (time : Nat) : World β := w.settle.advanceWithin time (time - w.now + 1)

/-- Lets some time pass. -/
def advance (w : World β) (delay : Nat) : World β := w.advanceTo (w.now + delay)

/-! ## Waiting for results -/

/-- Something that happens to a run while it is waited for. -/
inductive Interruption where
  /-- The run is dropped at a time. -/
  | drop (time : Nat)
  /-- The active run is cancelled at a time. -/
  | cancel (time : Nat)

namespace Interruption

/-- The time of an interruption. -/
def time : Interruption → Nat
  | .drop t => t
  | .cancel t => t

end Interruption

/-- Makes an interruption happen. -/
def interrupt (w : World β) (n : Nat) : Interruption → World β
  | .drop t => (((w.advanceTo t).act (.drop n)).2.setWait n none).settle
  | .cancel t => ((w.advanceTo t).act .cancel).2.settle

/-- Waits for a run to return, over so many of its waits. -/
def awaitWithin (n : Nat) (interruption : Option Interruption) : Nat → World β → World β
  | 0, w => w
  | fuel + 1, w =>
      match w.waits.lookup n with
      | none => w
      | some wait =>
          let reached := match wait.due?, interruption with
            | some t, some i => if i.time < t then none else some t
            | due, _ => due
          match reached, interruption with
          | some t, _ => awaitWithin n interruption fuel (w.advanceTo t)
          | none, some i => w.interrupt n i
          | none, none => w

/-- Waits for a run to return. -/
def await (w : World β) (n : Nat) (interruption : Option Interruption) : World β :=
  match w.waits.lookup n with
  | some wait => w.settle.awaitWithin n interruption (wait.size + 1)
  | none => w.settle

/-- The result of a run that returned. -/
def result? (w : World β) (n : Nat) : Option RunResult := w.returned.lookup n

/-- Carries out a procedure, waiting for each reply. -/
def perform : Procedure α → World β → α × World β
  | .done a, w => (a, w)
  | .tell e next, w => perform next (w.emit [e])
  | .ask c next, w =>
      let (reply, w) := w.ask c
      let w := w.advance (reply.delay.getD 0)
      let outcome : c.Outcome := match c, reply.value with
        | _, .error e => .error e
        | .bulkDelete _ _, .ok l => .ok (Delivery.body l)
        | .startSync _, .ok a => .ok a
        | .syncStatus, .ok a => .ok a
        | .listCandidates _ _, .ok a => .ok a
        | .crossServerMatches _, .ok a => .ok a
        | .deleteLibraryItem _ _, .ok a => .ok a
      perform (next outcome) w

/-- Launches the syncs of a rule: all calls at once, then the wait for the slowest reply. -/
def launch (w : World β) (rule : Rule) : Except MaintenanceError LaunchReport × World β :=
  match Launch.start rule with
  | .error e => (.error e, w)
  | .ok launch =>
      let (l, longest, _, w) := launch.calls.foldl (fun (l, longest, n, w) key =>
        let (reply, w) := World.ask w (.startSync key)
        (l.answer n reply.value, max longest (reply.delay.getD 0), n + 1, w)) (launch, 0, 0, w)
      let w := w.advance longest
      match l.conclude? with
      | some (result, events) => (result, w.emit events)
      | none => (.error .cancelled, w)

end World

end MediaMonitor.Scenario
