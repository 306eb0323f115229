import MediaMonitor.Number.Literal

/-!
# JSON values

A JSON text as a tree.  An integer literal keeps its exact value, any other number its digits as
they are written, so that nothing is rounded before someone asks for a double.  A string that
denotes no text, because of half a surrogate pair or of octets that are not UTF-8, is `unreadable`;
so is an object with such a key.  Nothing can be decoded from it, but it may stand where nobody
looks.
-/

namespace MediaMonitor

/-- A JSON value. -/
inductive Json where
  | null
  | bool (b : Bool)
  /-- A number written as an integer, other than `-0`. -/
  | integer (i : Int)
  /-- Any other number. -/
  | decimal (literal : NumberLiteral)
  | string (s : String)
  | unreadable
  | array (items : List Json)
  | object (members : List (String × Json))
  deriving Inhabited, Repr

namespace Json

/-- The members under a key, in their order. -/
def named (key : String) (members : List (String × Json)) : List Json :=
  (members.filter (fun m => m.1 = key)).map Prod.snd

/-- The double that a number is read as; `none` when it is too large for one. -/
def double? : Json → Option Double
  | .integer i => (NumberLiteral.ofInt i).double?
  | .decimal l => l.double?
  | _ => none

/-- The last member under a key. -/
def get? (key : String) : Json → Option Json
  | .object members => (named key members).getLast?
  | _ => none

end Json

end MediaMonitor
