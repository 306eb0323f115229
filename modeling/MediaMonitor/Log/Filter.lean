import MediaMonitor.Error
import MediaMonitor.Log.Directive

/-!
# Log filters

A filter is a list of directives.  Of those that name no span, the one with the longest target that
the name of an event's target starts with decides about the event; without one the event is dropped.
A directive that names a span is about the spans of that name and about everything inside them: what
it lets through there is not dropped.
-/

namespace MediaMonitor

/-- A span of the monitor's work in which events are written.  Spans have no fields. -/
structure LogSpan where
  name : String
  level : LogLevel
  target : String
  deriving DecidableEq, Repr

namespace LogDirective

/-- The directive is about a target. -/
def concerns (target : String) (d : LogDirective) : Bool :=
  match d.target with
  | some t => t.toList.isPrefixOf target.toList
  | none => true

/-- The directive asks for the value of a field. -/
def asksValue (d : LogDirective) : Bool := d.field.any (fun f => f.value.isSome)

/-- The directive is about events wherever they are written. -/
def isGeneral (d : LogDirective) : Bool := d.span.isNone && !d.asksValue

/-- The directive is about a span and what is inside it. -/
def names (s : LogSpan) (d : LogDirective) : Bool :=
  d.concerns s.target && d.span = some s.name && d.field.isNone

/-- The two directives are about the same, and the later takes the place of the earlier. -/
def sameScope (a b : LogDirective) : Bool :=
  a.target = b.target && a.span = b.span && a.field = b.field

/-- How much a directive says about where it holds: its target counts for more than a field, and of
two fields the later in the alphabet. -/
def weight (d : LogDirective) : Nat × Option String :=
  ((d.target.map (fun t => t.length + 1)).getD 0, d.field.map (·.name))

/-- The one field is at most the other; none is the least. -/
def fieldAtMost : Option String → Option String → Bool
  | none, _ => true
  | some _, none => false
  | some a, some b => a ≤ b

/-- The directive weighs at most as much as another one. -/
def weighsAtMost (a b : LogDirective) : Bool :=
  let (ta, fa) := a.weight
  let (tb, fb) := b.weight
  ta < tb || (ta = tb && fieldAtMost fa fb)

/-- The weightier of two directives; of two that weigh the same, the later. -/
def weightier : Option LogDirective → LogDirective → Option LogDirective
  | none, d => some d
  | some best, d => if best.weighsAtMost d then some d else some best

end LogDirective

/-- A list of directives. -/
structure LogFilter where
  directives : List LogDirective
  deriving DecidableEq, Repr

/-- The spans around an event as far as they matter: what the directives that name them let through,
and the innermost one that is let through itself. -/
structure LogScope where
  thresholds : List LogThreshold := []
  innermost : Option LogSpan := none
  deriving DecidableEq, Repr

namespace LogFilter

/-- Reads a filter: directives with commas between them. -/
def ofText (s : String) : Except LogDirectiveFault LogFilter :=
  (((Text.splitAll ',' s.toList).filter (· ≠ [])).mapM LogDirective.read).map .mk

/-- The filter of a level: the monitor's own parts at the level, and its transport at warnings. -/
def ofLevel (level : LogLevel) : LogFilter where
  directives :=
    ["core_runtime", "mlm_workspace", "core_maintenance", "core_service", "bridge_desktop"].map
      (fun t => { target := some t, threshold := some level }) ++
    ["h2", "hyper", "reqwest"].map (fun t => { target := some t, threshold := some .warn })

/-- The filter of a text, or of a level where there is none.  There is neither a filter nor an error
when a directive would be cut inside a character. -/
def ofSettings? (text : Option String) (level : LogLevel) :
    Option (Except SettingsError LogFilter) :=
  match text with
  | none => some (.ok (ofLevel level))
  | some s =>
      match ofText s with
      | .ok f => some (.ok f)
      | .error .malformed => some (.error (.config "Invalid log filter"))
      | .error .divided => none

/-- The directives whose place no later one takes. -/
def standing : List LogDirective → List LogDirective
  | [] => []
  | d :: ds => if ds.any d.sameScope then standing ds else d :: standing ds

/-- The general directives that hold for a target and for one of the fields that are named. -/
def general (f : LogFilter) (target : String) (fields : Option (List String)) :
    List LogDirective :=
  f.directives.filter (fun d => d.isGeneral && d.concerns target &&
    fields.all (fun names => d.field.all (fun m => m.name ∈ names)))

/-- The directive that decides about a target; where fields are given, a directive that asks for a
field holds only when it is one of them. -/
def deciding? (f : LogFilter) (target : String) (fields : Option (List String)) :
    Option LogDirective :=
  (f.general target fields).foldl LogDirective.weightier none

/-- The filter lets a level of a target through wherever it comes from. -/
def enables (f : LogFilter) (target : String) (fields : Option (List String))
    (level : LogLevel) : Bool :=
  (f.deciding? target fields).any (·.threshold.covers level)

/-- Some directive lets a level through, or must see everything because it asks for a value. -/
def reaches (f : LogFilter) (level : LogLevel) : Bool :=
  f.directives.any (fun d => d.threshold.covers level || d.asksValue)

/-- What the directives that name a span let through. -/
def thresholdsOf (f : LogFilter) (s : LogSpan) : List LogThreshold :=
  ((standing f.directives).filter (·.names s)).map (·.threshold)

/-- The filter lets a span through: one of its directives names it, or lets it through as one inside
the spans around it or like an event. -/
def opens (f : LogFilter) (around : LogScope) (s : LogSpan) : Bool :=
  f.reaches s.level &&
    (f.thresholdsOf s ≠ [] || around.thresholds.any (·.covers s.level) ||
      f.enables s.target none s.level)

/-- Goes into a span. -/
def enter (f : LogFilter) (around : LogScope) (s : LogSpan) : LogScope :=
  if f.opens around s then ⟨around.thresholds ++ f.thresholdsOf s, some s⟩ else around

/-- The scope inside spans, the outermost first. -/
def scopeOf (f : LogFilter) (spans : List LogSpan) : LogScope := spans.foldl f.enter ⟨[], none⟩

/-- The filter lets an event through that declares some fields. -/
def admits (f : LogFilter) (around : LogScope) (target : String) (fields : List String)
    (level : LogLevel) : Bool :=
  around.thresholds.any (·.covers level) || f.enables target (some fields) level

end LogFilter

end MediaMonitor
