import MediaMonitor.Candidate.Query
import MediaMonitor.Deletion.Reading
import MediaMonitor.Event.Basic
import MediaMonitor.Library.Item
import MediaMonitor.Sync.Launch

/-!
# The backend

The calls that the monitor makes to its backend, and procedures: computations that make calls one
after another, each depending on the answers so far, and tell observers of their course.
-/

namespace MediaMonitor

/-- A call to the backend. -/
inductive BackendCall where
  | startSync (key : SyncKey)
  | syncStatus
  | listCandidates (ruleId : Int64) (query : CandidateQuery)
  | bulkDelete (ruleId : Int64) (ids : List Int64)
  | crossServerMatches (itemId : Int64)
  /-- Deletes an item; a copy of an item is checked against it. -/
  | deleteLibraryItem (itemId : Int64) (verifyAgainst : Option Int64)
  deriving DecidableEq, Repr

/-- What the backend answers to a call that succeeds. -/
abbrev BackendCall.Answer : BackendCall → Type
  | .startSync _ => StartReply
  | .syncStatus => SyncSnapshot
  | .listCandidates _ _ => CandidatePage
  | .bulkDelete _ _ => Body
  | .crossServerMatches _ => List CrossServerMatch
  | .deleteLibraryItem _ _ => Unit

/-- The outcome of a call. -/
abbrev BackendCall.Outcome (c : BackendCall) : Type := Except MaintenanceError c.Answer

/-- A computation that calls the backend and tells observers of its course. -/
inductive Procedure (α : Type) where
  | done (a : α)
  | ask (c : BackendCall) (next : c.Outcome → Procedure α)
  | tell (e : Event) (next : Procedure α)

namespace Procedure

/-- Goes on with another procedure. -/
def bind : Procedure α → (α → Procedure β) → Procedure β
  | .done a, f => f a
  | .ask c next, f => .ask c (fun r => (next r).bind f)
  | .tell e next, f => .tell e (next.bind f)

instance : Monad Procedure where
  pure := .done
  bind := bind

/-- Makes a call. -/
def call (c : BackendCall) : Procedure c.Outcome := .ask c .done

/-- Tells observers of an event. -/
def emit (e : Event) : Procedure Unit := .tell e (.done ())

/-- What a procedure does against a backend that answers as it is given: its result, its calls and
its events. -/
structure Trace (α : Type) where
  result : α
  calls : List BackendCall := []
  events : List Event := []

/-- Runs a procedure against a backend. -/
def run (answer : σ → (c : BackendCall) → c.Outcome × σ) : Procedure α → σ → Trace α × σ
  | .done a, s => ({ result := a }, s)
  | .ask c next, s =>
      let (t, s) := run answer (next (answer s c).1) (answer s c).2
      ({ t with calls := c :: t.calls }, s)
  | .tell e next, s =>
      let (t, s) := run answer next s
      ({ t with events := e :: t.events }, s)

end Procedure

end MediaMonitor
