import MediaMonitor.Log.Entry
import MediaMonitor.Log.Filter
import MediaMonitor.Log.Redaction
import MediaMonitor.Log.Value
import MediaMonitor.Text.Split

/-!
# Forwarding to the host's log

Every event that the filter and the host's level let through becomes a log entry.  The field
`message` is its message, which is never redacted; the other fields are, unless the host wants them
as they are.
-/

namespace MediaMonitor

/-- An event to log. -/
structure LogEvent where
  level : LogLevel
  target : String
  /-- The name of the event, which stands for an absent message. -/
  name : String
  /-- The names of the fields that the event may have beside the message. -/
  declared : List String := []
  /-- What is recorded of the event, in order; of fields with one name the last stands. -/
  fields : List (String × LogValue) := []
  /-- The spans around the event, the outermost first. -/
  spans : List LogSpan := []

namespace LogEvent

/-- The name of the field that holds the message. -/
def messageField : String := "message"

/-- The message that is recorded of an event, if any. -/
def recordedMessage? (e : LogEvent) : Option LogValue :=
  ((e.fields.filter (fun x => x.1 = messageField)).getLast?).map Prod.snd

/-- The message of an event, or else its name. -/
def message (e : LogEvent) : String :=
  match e.recordedMessage? with
  | some v => v.render
  | none => e.name

/-- The names of the fields that an event declares: the message only if there is one, any other
field whether or not it is recorded. -/
def fieldNames (e : LogEvent) : List String :=
  (if e.recordedMessage?.isSome then [messageField] else []) ++
    e.declared.filter (· ≠ messageField)

/-- The fields beside the message. -/
def details (e : LogEvent) : SortedMap String LogValue :=
  SortedMap.ofList (e.fields.filter (fun x => x.1 ≠ messageField))

end LogEvent

/-- What forwards events to the host. -/
structure LogForwarder where
  filter : LogFilter
  /-- The level from which on the host wants entries; `none` when it wants none at all. -/
  hostLevel : Option LogLevel
  redacts : Bool := true

namespace LogForwarder

/-- The level from which on a host wants entries that does not say. -/
def defaultHostLevel : LogLevel := .info

/-- What a line starts with that says that the host failed to take an entry. -/
def sinkErrorMark : String := "LoggerSink error"

/-- What is said when the host fails to take an entry. -/
def sinkError (e : BridgeError) : String := sinkErrorMark ++ ": " ++ e.message

/-- The lines of what is said that can be told from other output by their start. -/
def sinkErrorLines (e : BridgeError) : List String :=
  ((Text.lines (sinkError e).toList).filter sinkErrorMark.toList.isPrefixOf).map String.ofList

/-- What is said when logging is set up a second time. -/
def alreadyInitialized : SettingsError := .config "Failed to initialize logging"

/-- What the filter makes of the spans around an event. -/
def scope (f : LogForwarder) (e : LogEvent) : LogScope := f.filter.scopeOf e.spans

/-- The event passes the filter and the host's level. -/
def accepts (f : LogForwarder) (e : LogEvent) : Bool :=
  f.filter.admits (f.scope e) e.target e.fieldNames e.level &&
    LogThreshold.covers f.hostLevel e.level

/-- The value of a field as the host sees it. -/
def fieldValue? (f : LogForwarder) (name : String) (value : LogValue) : Option String :=
  if f.redacts then Redaction.redact? name value.render else some value.render

/-- The innermost span that the filter lets through. -/
def span? (f : LogForwarder) (e : LogEvent) : Option String := (f.scope e).innermost.map (·.name)

/-- The details as the host sees them; `none` when one of them has no redacted form. -/
def details? (f : LogForwarder) (e : LogEvent) : Option (List (String × String)) :=
  e.details.entries.mapM (fun x => (f.fieldValue? x.1 x.2).map (fun v => (x.1, v)))

/-- The entry of an event that is accepted; `none` when one of its fields has no redacted form. -/
def entry? (f : LogForwarder) (e : LogEvent) : Option LogEntry :=
  (f.details? e).map (fun fields =>
    { level := e.level
      target := e.target
      message := e.message
      fields := SortedMap.ofList fields
      spanId := f.span? e })

/-- The entries of a sequence of events; `none` when forwarding one of them fails. -/
def forwardAll? (f : LogForwarder) (events : List LogEvent) : Option (List LogEntry) :=
  (events.filter f.accepts).mapM f.entry?

end LogForwarder

end MediaMonitor
