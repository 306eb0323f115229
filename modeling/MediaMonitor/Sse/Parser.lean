import MediaMonitor.Text.Split

/-!
# Server-sent events

A `text/event-stream` is a sequence of lines, each ended by a carriage return, a line feed or the
two together.  A line names a field and gives its value; a blank line dispatches the fields gathered
since the last one as a frame.  The parser takes one character at a time, so it makes no difference
how the text is cut into chunks.
-/

namespace MediaMonitor.Sse

/-- The fields gathered between two blank lines; the lines of data are joined by line feeds. -/
structure Frame where
  event : Option String := none
  id : Option String := none
  data : String := ""
  deriving DecidableEq, Repr, Inhabited

/-- A parser between two characters. -/
structure Parser where
  /-- The characters of the line so far, the last one first. -/
  lineRev : List Char := []
  /-- The last character was a carriage return, so that a line feed now belongs to it. -/
  skipLf : Bool := false
  frame : Frame := {}
  /-- The frame has a line of data, be it an empty one. -/
  hasData : Bool := false
  deriving DecidableEq, Repr, Inhabited

/-- The value of a field without the space in front. -/
def dropSpace : List Char → List Char
  | ' ' :: rest => rest
  | cs => cs

/-- The field and the value of a line; a comment has none. -/
def fieldOf (line : List Char) : Option (String × String) :=
  match Text.splitFirst ':' line with
  | some ([], _) => none
  | some (field, value) => some (String.ofList field, String.ofList (dropSpace value))
  | none => some (String.ofList line, "")

namespace Parser

/-- Takes a field into the frame. -/
def gather (p : Parser) : String × String → Parser
  | ("event", value) => { p with frame := { p.frame with event := some value } }
  | ("id", value) => { p with frame := { p.frame with id := some value } }
  | ("data", value) =>
      let data := if p.hasData then p.frame.data ++ "\n" ++ value else p.frame.data ++ value
      { p with frame := { p.frame with data := data }, hasData := true }
  | _ => p

/-- Hands out the frame, unless it is empty, and starts another one. -/
def dispatch (p : Parser) : Option Frame × Parser :=
  (if p.frame = {} then none else some p.frame, { p with frame := {}, hasData := false })

/-- Takes a line that is not blank. -/
def takeLine (p : Parser) (line : List Char) : Parser :=
  match fieldOf line with
  | some field => p.gather field
  | none => p

/-- Ends the line. -/
def endLine (p : Parser) : Option Frame × Parser :=
  let q := { p with lineRev := [] }
  if p.lineRev = [] then q.dispatch else (none, q.takeLine p.lineRev.reverse)

/-- Takes one character. -/
def step (p : Parser) (c : Char) : Option Frame × Parser :=
  if c = '\n' ∧ p.skipLf then (none, { p with skipLf := false })
  else if c = '\n' ∨ c = '\r' then
    let r := p.endLine
    (r.1, { r.2 with skipLf := c = '\r' })
  else (none, { p with lineRev := c :: p.lineRev, skipLf := false })

/-- Takes the characters of a chunk. -/
def push (p : Parser) : List Char → List Frame × Parser
  | [] => ([], p)
  | c :: rest =>
      let r := p.step c
      let s := r.2.push rest
      (r.1.toList ++ s.1, s.2)

/-- Hands out a last frame that no blank line followed. -/
def finish (p : Parser) : Option Frame × Parser :=
  let q := { p with lineRev := [] }
  if p.lineRev = [] then q.dispatch else (q.takeLine p.lineRev.reverse).dispatch

/-- Taking two chunks is taking their concatenation. -/
theorem push_append (p : Parser) (xs ys : List Char) :
    p.push (xs ++ ys) =
      ((p.push xs).1 ++ ((p.push xs).2.push ys).1, ((p.push xs).2.push ys).2) := by
  induction xs generalizing p with
  | nil => simp [push]
  | cons c xs ih => simp [push, ih, List.append_assoc]

end Parser

end MediaMonitor.Sse
