import MediaMonitor.Json.Basic
import MediaMonitor.SortedMap
import MediaMonitor.Text.Integer

/-!
# Writing JSON

The shortest text without white space.  In a string only the quote, the backslash and the control
characters are escaped, the latter by a letter where there is one and by number otherwise.
`Json.settle?` is the form a value takes when it is kept without a type of its own.
-/

namespace MediaMonitor.Json

/-- A hexadecimal digit, lower case. -/
def hexDigit (n : Nat) : Char := Nat.digitChar n

/-- One character of a string. -/
def writeChar (c : Char) : List Char :=
  if c = '"' then ['\\', '"']
  else if c = '\\' then ['\\', '\\']
  else if c = '\x08' then ['\\', 'b']
  else if c = '\t' then ['\\', 't']
  else if c = '\n' then ['\\', 'n']
  else if c = '\x0c' then ['\\', 'f']
  else if c = '\r' then ['\\', 'r']
  else if c.toNat < 0x20 then
    ['\\', 'u', '0', '0', hexDigit (c.toNat / 16), hexDigit (c.toNat % 16)]
  else [c]

/-- A string between its quotes. -/
def writeString (s : String) : List Char := '"' :: s.toList.flatMap writeChar ++ ['"']

/-- A number that is no integer, by the double it is read as. -/
def writeDecimal (l : NumberLiteral) : List Char :=
  match l.double? with
  | some d => d.marked
  | none => ['n', 'u', 'l', 'l']

mutual

/-- The text of a value; what cannot be read is written as null. -/
def writeChars : Json → List Char
  | .null => ['n', 'u', 'l', 'l']
  | .bool true => ['t', 'r', 'u', 'e']
  | .bool false => ['f', 'a', 'l', 's', 'e']
  | .integer i => Text.intChars i
  | .decimal l => writeDecimal l
  | .string s => writeString s
  | .unreadable => ['n', 'u', 'l', 'l']
  | .array [] => ['[', ']']
  | .array (j :: js) => '[' :: writeChars j ++ writeElements js
  | .object [] => ['{', '}']
  | .object ((k, j) :: ms) => '{' :: writeString k ++ ':' :: writeChars j ++ writeMembers ms

/-- The further elements of an array. -/
def writeElements : List Json → List Char
  | [] => [']']
  | j :: js => ',' :: writeChars j ++ writeElements js

/-- The further members of an object. -/
def writeMembers : List (String × Json) → List Char
  | [] => ['}']
  | (k, j) :: ms => ',' :: writeString k ++ ':' :: writeChars j ++ writeMembers ms

end

/-- The text of a value. -/
def write (j : Json) : String := String.ofList (writeChars j)

/-! ## Values without a type of their own -/

/-- The greatest number of arrays and objects around a value. -/
def greatestDepth : Nat := 127

/-- An integer that fits 64 bits, signed or not; any other becomes a decimal. -/
def settleInteger (i : Int) : Json :=
  if Int64.minValue.toInt ≤ i ∧ i < UInt64.size then .integer i
  else .decimal (NumberLiteral.ofInt i)

/-- A number unless it is too large for a double. -/
def finite? (j : Json) : Option Json := j.double?.map (fun _ => j)

mutual

/-- The value with all its strings readable, its numbers finite, and at most `depth` arrays and
objects one inside another. -/
def settle? (depth : Nat) : Json → Option Json
  | .integer i => finite? (settleInteger i)
  | .decimal l => finite? (.decimal l)
  | .unreadable => none
  | .array items =>
      if depth = 0 then none else (settleItems? (depth - 1) items).map .array
  | .object members =>
      if depth = 0 then none else (settleMembers? (depth - 1) members).map .object
  | j => some j

/-- Every element of an array. -/
def settleItems? (depth : Nat) : List Json → Option (List Json)
  | [] => some []
  | j :: js => do
      let j ← settle? depth j
      let js ← settleItems? depth js
      return j :: js

/-- Every member of an object. -/
def settleMembers? (depth : Nat) : List (String × Json) → Option (List (String × Json))
  | [] => some []
  | (k, j) :: ms => do
      let j ← settle? depth j
      let ms ← settleMembers? depth ms
      return (k, j) :: ms

end

mutual

/-- The value with the members of each object sorted by key, the last of equal keys standing. -/
def sortKeys : Json → Json
  | .array items => .array (sortKeysItems items)
  | .object members => .object (SortedMap.ofList (sortKeysMembers members)).entries
  | j => j

/-- Every element of an array. -/
def sortKeysItems : List Json → List Json
  | [] => []
  | j :: js => sortKeys j :: sortKeysItems js

/-- Every member of an object. -/
def sortKeysMembers : List (String × Json) → List (String × Json)
  | [] => []
  | (k, j) :: ms => (k, sortKeys j) :: sortKeysMembers ms

end

/-- A value as it is kept without a type of its own. -/
def untyped? (j : Json) : Option Json := (settle? greatestDepth j).map sortKeys

example : write (.object [("a\n", .array [.integer (-3), .null]), ("b", .string "é\x01")]) =
    "\x7b\"a\\n\":[-3,null],\"b\":\"é\\u0001\"\x7d" := by decide +kernel

end MediaMonitor.Json
