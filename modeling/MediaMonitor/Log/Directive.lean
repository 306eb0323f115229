import MediaMonitor.Log.Level
import MediaMonitor.Log.Pattern
import MediaMonitor.Text.Alphanumeric
import MediaMonitor.Text.Blank
import MediaMonitor.Text.Integer
import MediaMonitor.Text.Octets
import MediaMonitor.Text.Split

/-!
# Directives of a log filter

A directive lets something through from some level on: a bare level is for everything, `target` and
`target=level` are for the targets that start with a text, and between brackets may stand the name
of a span and a field, with or without a pattern for its value: `target[span{field=value}]=level`.

The marks that divide a directive are looked for in its text without the white space at both ends.
The parts are cut from the whole text at the places that the marks were found at, so that white
space in front shifts them, and may put a cut inside a character.
-/

namespace MediaMonitor

/-- What a directive lets through: nothing, or what is at least as grave as a level. -/
abbrev LogThreshold := Option LogLevel

namespace LogThreshold

/-- The threshold lets a level through. -/
def covers (t : LogThreshold) (level : LogLevel) : Bool :=
  match t with
  | some least => least ≤ level
  | none => false

/-- The word for a threshold, in any case, or its number from 0 for nothing to 5 for everything. -/
def ofText? (cs : List Char) : Option LogThreshold :=
  match Text.unsigned? cs with
  | some n => ([none, some .error, some .warn, some .info, some .debug, some .trace] :
      List LogThreshold)[n.toNat]?
  | none =>
      let word := String.ofList (cs.map Char.toLower)
      if word = "off" then some none else (LogLevel.all.find? (fun l => l.keyword = word)).map some

end LogThreshold

/-- A field that a directive asks for. -/
structure LogFieldMatch where
  name : String
  value : Option String := none
  deriving DecidableEq, Repr

/-- A directive.  One without a target is for all targets. -/
structure LogDirective where
  target : Option String := none
  /-- The name of the spans it is about. -/
  span : Option String := none
  field : Option LogFieldMatch := none
  threshold : LogThreshold := some .trace
  deriving DecidableEq, Repr

/-- Why a directive cannot be read. -/
inductive LogDirectiveFault where
  | malformed
  /-- A part of it starts or ends inside a character. -/
  | divided
  deriving DecidableEq, Repr

namespace LogDirective

/-- A directive may start with the character. -/
def isStart (c : Char) : Bool := c = '-' || c = ':' || c = '_' || Text.isAlphanumeric c

/-- The place of the first character that is one of some marks, the mark, and what is behind it. -/
def seek (marks : List Char) : List (Nat × Char) → Option (Nat × Char × List (Nat × Char))
  | [] => none
  | (i, c) :: rest => if c ∈ marks then some (i, c, rest) else seek marks rest

/-- A part of a directive, unless it is cut inside a character. -/
def part (start stop : Nat) (cs : List Char) : Except LogDirectiveFault String :=
  match Text.between? start stop cs with
  | some p => .ok (String.ofList p)
  | none => .error .divided

/-- The threshold behind a place: everything when nothing stands there. -/
def thresholdBehind (start : Nat) (cs : List Char) : Except LogDirectiveFault LogThreshold :=
  match Text.behind? start cs with
  | none => .error .divided
  | some [] => .ok (some .trace)
  | some word =>
      match LogThreshold.ofText? word with
      | some t => .ok t
      | none => .error .malformed

/-- A directive that is a threshold or else a target, which it lets through entirely. -/
def bare (cs : List Char) : LogDirective :=
  match LogThreshold.ofText? cs with
  | some t => { threshold := t }
  | none => { target := some (String.ofList cs) }

/-- What follows the closing bracket: nothing, which lets everything through, or a threshold. -/
def afterBracket (cs : List Char) (d : LogDirective) :
    List (Nat × Char) → Except LogDirectiveFault LogDirective
  | [] => .ok d
  | (i, c) :: _ =>
      if c = '=' then (thresholdBehind (i + 1) cs).map (fun t => { d with threshold := t })
      else .error .malformed

/-- The field that a text asks for; what is behind a second equals sign does not count. -/
def fieldMatch (s : String) : Except LogDirectiveFault LogFieldMatch :=
  match Text.splitAll '=' s.toList with
  | name :: value :: _ =>
      if LogPattern.isWellFormed value then
        .ok ⟨String.ofList name, some (String.ofList value)⟩
      else .error .malformed
  | _ => .ok ⟨s, none⟩

/-- What follows the opening bracket: the name of a span, and a field between braces if there is
one.  An empty name before a field stands for no name. -/
def afterOpening (cs : List Char) (d : LogDirective) (start : Nat) (rest : List (Nat × Char)) :
    Except LogDirectiveFault LogDirective :=
  match seek [']', '\x7b'] rest with
  | none => .error .malformed
  | some (i, ']', rest) => do
      let name ← part start i cs
      afterBracket cs { d with span := some name } rest
  | some (i, _, rest) => do
      let name ← part start i cs
      match seek ['\x7d'] rest with
      | none => .error .malformed
      | some (j, _, rest) => do
          let field ← part (i + 1) j cs
          if field = "" then .error .malformed
          else
            let field ← fieldMatch field
            let d := { d with
              span := if name = "" then none else some name
              field := some field }
            match rest with
            | (_, ']') :: rest => afterBracket cs d rest
            | _ => .error .malformed

/-- Reads a directive. -/
def read (cs : List Char) : Except LogDirectiveFault LogDirective :=
  match Text.places 0 (Text.trimChars cs) with
  | [] => .error .malformed
  | (_, '[') :: rest => afterOpening cs {} 1 rest
  | (_, c) :: rest =>
      if !isStart c then .error .malformed
      else
        match seek ['=', '['] rest with
        | none => .ok (bare cs)
        | some (i, '=', _) => do
            let target ← part 0 i cs
            let threshold ← thresholdBehind (i + 1) cs
            return { target := some target, threshold := threshold }
        | some (i, _, rest) => do
            let target ← part 0 i cs
            afterOpening cs { target := some target } (i + 1) rest

example : (read "core[sync]=2".toList).toOption =
    some { target := some "core", span := some "sync", threshold := some .warn } := by
  decide +kernel

example : (read "[sync]".toList).toOption = some { span := some "sync" } ∧
    (read " core".toList).toOption = some { target := some " core" } ∧
    (read " é=2".toList).toOption = none := by
  decide +kernel

end LogDirective

end MediaMonitor
