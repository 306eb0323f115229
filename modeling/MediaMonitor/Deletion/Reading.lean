import MediaMonitor.Deletion.StreamFrame
import MediaMonitor.Error
import MediaMonitor.Text.Utf8

/-!
# Reading the event stream of a deletion

A read takes the items of a body one by one, decodes their text, and applies the frames in it one
after another until one of them is final.  It can be cancelled: between two items it stops at once,
and before every frame it asks whether it was cancelled.  `Reading.run` reads a whole body, with a
plan that says where the cancellation comes.
-/

namespace MediaMonitor

/-- How a read came to its end. -/
inductive StreamEnd where
  /-- The final result was received. -/
  | finished
  /-- The body ended before a final frame. -/
  | closed
  /-- The transport failed, or the backend reported an error. -/
  | failed (reason : String)
  | cancelled
  deriving DecidableEq, Repr

/-- What a read has found. -/
structure StreamReport where
  /-- The last progress applied. -/
  progress : Option DeleteProgress := none
  /-- The final result. -/
  result : Option BulkDeleteResult := none
  stop : StreamEnd := .closed
  framesApplied : Nat := 0
  skippedFrames : Nat := 0
  deriving DecidableEq, Repr

/-- An item of a body: a chunk of octets, or an error of the transport. -/
abbrev BodyItem := Except BridgeError (List UInt8)

/-- A read in progress. -/
structure Reading where
  decoder : Utf8.Decoder := {}
  parser : Sse.Parser := {}
  report : StreamReport := {}
  /-- The frames of the last item that are still to be applied. -/
  pending : List Sse.Frame := []
  /-- The body has come to its end. -/
  bodyOver : Bool := false
  /-- The read has come to its end. -/
  stopped : Bool := false
  deriving DecidableEq, Repr

namespace Reading

/-- The read ends. -/
def halt (r : Reading) (stop : StreamEnd) : Reading :=
  { r with report := { r.report with stop := stop }, pending := [], stopped := true }

/-- The read needs another item. -/
def isWaiting (r : Reading) : Bool := !r.stopped && r.pending.isEmpty

/-- Takes an item. -/
def deliver (r : Reading) : BodyItem → Reading
  | .ok bs =>
      let text := r.decoder.push bs
      let frames := r.parser.push text.1
      { r with decoder := text.2, parser := frames.2, pending := frames.1 }
  | .error e => r.halt (.failed e.message)

/-- The text that stands for what the last chunk cut short, as a line of its own end. -/
def lastText (r : Reading) : List Char :=
  let text := r.decoder.finish
  if text = [] then [] else text ++ ['\n']

/-- Takes the end of the body. -/
def close (r : Reading) : Reading :=
  let frames := r.parser.push r.lastText
  let last := frames.2.finish
  let r := { r with
    decoder := {}, parser := last.2, pending := frames.1 ++ last.1.toList, bodyOver := true }
  if r.pending = [] then r.halt .closed else r

/-- Goes on when a frame was dealt with: at the end of the body, the last frame ends the read. -/
def settle (r : Reading) : Reading :=
  if r.pending = [] ∧ r.bodyOver then r.halt .closed else r

/-- Applies one frame: the progress to tell of, and the read after it. -/
def applyFrame (r : Reading) (frame : Sse.Frame) : Option DeleteProgress × Reading :=
  match StreamFrame.ofFrame frame with
  | .ok (.progress p) =>
      (some p, settle { r with report := { r.report with
        progress := some p, framesApplied := r.report.framesApplied + 1 } })
  | .ok (.complete result) =>
      (none, halt { r with report := { r.report with
        result := some result, framesApplied := r.report.framesApplied + 1 } } .finished)
  | .ok (.error reason) => (none, r.halt (.failed reason))
  | .error _ =>
      (none, settle { r with report := { r.report with
        skippedFrames := r.report.skippedFrames + 1 } })

/-- Deals with the first pending frame: a cancelled read stops there, any other applies it. -/
def applyNext (r : Reading) (cancelled : Bool) : Option DeleteProgress × Reading :=
  match r.pending with
  | [] => (none, r)
  | frame :: rest =>
      if cancelled then (none, r.halt .cancelled) else applyFrame { r with pending := rest } frame

end Reading

/-- Where a read is cancelled: while it waits for an item, as an item is delivered, or inside a call
that tells of progress.  Items are counted from 0, the end of the body being one of them, and calls
from 1. -/
structure CancelPlan where
  waiting : Nat → Bool := fun _ => false
  delivering : Nat → Bool := fun _ => false
  call : Nat → Bool := fun _ => false

/-- A body: its items, and whether it stalls after them or comes to its end. -/
structure Body where
  items : List BodyItem
  stalls : Bool := false

namespace Reading

/-- A read, the progress it has told of, and whether it was cancelled. -/
structure Session where
  reading : Reading := {}
  calls : List DeleteProgress := []
  cancelled : Bool := false

namespace Session

/-- Applies so many pending frames. -/
def drain (plan : CancelPlan) : Nat → Session → Session
  | 0, s => s
  | n + 1, s =>
      let step := s.reading.applyNext s.cancelled
      match step.1 with
      | some p =>
          let calls := s.calls ++ [p]
          drain plan n ⟨step.2, calls, s.cancelled || plan.call calls.length⟩
      | none => drain plan n { s with reading := step.2 }

/-- Applies all pending frames. -/
def drainAll (plan : CancelPlan) (s : Session) : Session := drain plan s.reading.pending.length s

/-- Waits for an item: the read stops when it is cancelled by then. -/
def await (plan : CancelPlan) (n : Nat) (s : Session) : Session :=
  if s.reading.stopped then s
  else if s.cancelled || plan.waiting n then
    { s with reading := s.reading.halt .cancelled, cancelled := true }
  else s

/-- Takes an item, or the end of the body, and applies its frames. -/
def take (plan : CancelPlan) (n : Nat) (item : Option BodyItem) (s : Session) : Session :=
  if s.reading.stopped then s
  else
    let reading := match item with
      | some item => s.reading.deliver item
      | none => s.reading.close
    drainAll plan { s with reading := reading, cancelled := s.cancelled || plan.delivering n }

/-- Reads the rest of a body from its `n`-th item on. -/
def readFrom (plan : CancelPlan) (stalls : Bool) (n : Nat) : List BodyItem → Session → Session
  | [], s =>
      let s := s.await plan n
      if stalls then s else s.take plan n none
  | item :: rest, s => readFrom plan stalls (n + 1) rest ((s.await plan n).take plan n (some item))

end Session

/-- Reads a whole body. -/
def run (plan : CancelPlan) (body : Body) : Session :=
  Session.readFrom plan body.stalls 0 body.items {}

end Reading

end MediaMonitor
