import MediaMonitor.Deletion.Progress
import MediaMonitor.ErrorNote
import MediaMonitor.Json.Reader
import MediaMonitor.Sse.Parser
import MediaMonitor.Text.Blank
import MediaMonitor.Text.Quoted

/-!
# Frames of a deletion

What a frame of the backend's event stream says about a batch deletion: how far it has come, its
final result, or that it broke off.
-/

namespace MediaMonitor

/-- The meaning of a frame. -/
inductive StreamFrame where
  | progress (p : DeleteProgress)
  | complete (r : BulkDeleteResult)
  | error (reason : String)
  deriving DecidableEq, Repr

/-- Why a frame is rejected. -/
inductive FrameFault where
  | invalidProgress
  | invalidComplete
  | unexpectedEvent (name : String)
  deriving DecidableEq, Repr

namespace FrameFault

/-- The wording of a fault. -/
def message : FrameFault → String
  | .invalidProgress => "invalid progress"
  | .invalidComplete => "invalid complete"
  | .unexpectedEvent name => "unexpected event " ++ Text.quote name

end FrameFault

namespace StreamFrame

/-- The reason given in the data of an error frame: that of a note, or else the data itself. -/
def errorReason (data : String) : String := ((Json.ofText? data).bind ErrorNote.text?).getD data

/-- Decodes a frame. -/
def ofFrame (f : Sse.Frame) : Except FrameFault StreamFrame :=
  let data := Text.trim f.data
  let progress : Except FrameFault StreamFrame :=
    match (Json.ofText? data).bind DeleteProgress.ofJson? with
    | some p => .ok (.progress p)
    | none => .error .invalidProgress
  match f.event with
  | none => progress
  | some "message" => progress
  | some "progress" => progress
  | some "complete" =>
      match (Json.ofText? data).bind BulkDeleteResult.ofJson? with
      | some r => .ok (.complete r)
      | none => .error .invalidComplete
  | some "error" => .ok (.error (errorReason data))
  | some name => .error (.unexpectedEvent name)

end StreamFrame

end MediaMonitor
