import MediaMonitor.Error
import MediaMonitor.Number.Double

/-!
# Values of log fields

What a logged event says about a field, and the text that the host's log has for it.
-/

namespace MediaMonitor

/-- The value of a field of an event. -/
inductive LogValue where
  | text (s : String)
  | integer (i : Int)
  | truth (b : Bool)
  | double (d : Double)
  | integers (l : List Int)
  | failure (e : BridgeError)

namespace LogValue

/-- The text of a value. -/
def render : LogValue → String
  | .text s => s
  | .integer i => Text.ofInt i
  | .truth b => if b then "true" else "false"
  | .double d => String.ofList d.plain
  | .integers l => "[" ++ ", ".intercalate (l.map Text.ofInt) ++ "]"
  | .failure e => e.message

example : (integers [3, 1, -2]).render = "[3, 1, -2]" := by decide +kernel

end LogValue

end MediaMonitor
