import MediaMonitor.Log.Level
import MediaMonitor.SortedMap

/-!
# Log entries

What the host's log receives: a message with its level and target, fields by name, and the name of
the span it was written in.
-/

namespace MediaMonitor

/-- An entry of the host's log. -/
structure LogEntry where
  level : LogLevel
  target : String
  message : String
  fields : SortedMap String String := ∅
  spanId : Option String := none
  deriving DecidableEq

namespace LogEntry

/-- Sets a field. -/
def withField (e : LogEntry) (name value : String) : LogEntry :=
  { e with fields := e.fields.insert name value }

/-- Encodes an entry. -/
def toJson (e : LogEntry) : Json := .object [
  ("level", .string e.level.name),
  ("target", .string e.target),
  ("message", .string e.message),
  ("fields", .object (e.fields.entries.map (fun f => (f.1, .string f.2)))),
  ("span_id", Json.ofOption .string e.spanId)]

end LogEntry

end MediaMonitor
