import MediaMonitor.Json.Record

/-!
# Log levels

Five levels, from the finest to the gravest.
-/

namespace MediaMonitor

/-- How grave a log entry is. -/
inductive LogLevel where
  | trace
  | debug
  | info
  | warn
  | error
  deriving DecidableEq, Repr, Inhabited

namespace LogLevel

/-- The place of a level among the others. -/
def rank : LogLevel → Nat
  | .trace => 0
  | .debug => 1
  | .info => 2
  | .warn => 3
  | .error => 4

instance : LE LogLevel := ⟨fun a b => a.rank ≤ b.rank⟩
instance (a b : LogLevel) : Decidable (a ≤ b) := inferInstanceAs (Decidable (a.rank ≤ b.rank))

/-- The levels, the finest first. -/
def all : List LogLevel := [trace, debug, info, warn, error]

/-- The name of a level in a log entry. -/
def name : LogLevel → String
  | .trace => "Trace"
  | .debug => "Debug"
  | .info => "Info"
  | .warn => "Warn"
  | .error => "Error"

/-- The name of a level in a filter. -/
def keyword : LogLevel → String
  | .trace => "trace"
  | .debug => "debug"
  | .info => "info"
  | .warn => "warn"
  | .error => "error"

/-- Decodes a level. -/
def ofJson? : Json → Option LogLevel := Json.choice? (all.map (fun l => (l.name, l)))

end LogLevel

end MediaMonitor
