import MediaMonitor.Json.Basic
import MediaMonitor.Text.Hexadecimal
import MediaMonitor.Text.Utf8

/-!
# Reading JSON

The strict grammar: white space is space, tab, line feed and carriage return, numbers have no
superfluous sign, zero or point, no control character stands unescaped in a string, no comma trails,
and nothing follows the value.

The input is a list of characters in which `none` is a part that is not UTF-8; such a part may stand
inside a string only, and makes the string unreadable.  Every function gives the value and the rest
of the input.
-/

namespace MediaMonitor.Json

/-- Characters to read, with `none` for a part that is not UTF-8. -/
abbrev Input := List (Option Char)

/-- The character is JSON white space. -/
def isSpace (c : Char) : Bool := c = ' ' || c = '\t' || c = '\n' || c = '\r'

/-- Drops the white space in front. -/
def skipSpace : Input → Input
  | some c :: rest => if isSpace c then skipSpace rest else some c :: rest
  | cs => cs

/-- Drops a word in front. -/
def dropWord? : List Char → Input → Option Input
  | [], cs => some cs
  | w :: ws, some c :: rest => if c = w then dropWord? ws rest else none
  | _ :: _, _ => none

/-! ## Strings -/

/-- A part of a string between its quotes. -/
inductive Piece where
  | char (c : Char)
  /-- Half of a surrogate pair. -/
  | half (unit : Nat)
  /-- A part that is not UTF-8. -/
  | illFormed
  deriving DecidableEq, Repr

/-- The value of four hexadecimal digits. -/
def unit? (a b c d : Char) : Option Nat := do
  let a ← Text.hexValue? a
  let b ← Text.hexValue? b
  let c ← Text.hexValue? c
  let d ← Text.hexValue? d
  return ((a * 16 + b) * 16 + c) * 16 + d

/-- What an escape by number stands for. -/
def pieceOfUnit (unit : Nat) : Piece :=
  if 0xD800 ≤ unit ∧ unit ≤ 0xDFFF then .half unit else .char (Char.ofNat unit)

/-- What an escape of two characters stands for. -/
def escaped? : Char → Option Char
  | '"' => some '"'
  | '\\' => some '\\'
  | '/' => some '/'
  | 'b' => some '\x08'
  | 'f' => some '\x0c'
  | 'n' => some '\n'
  | 'r' => some '\r'
  | 't' => some '\t'
  | _ => none

/-- The parts of a string up to its closing quote. -/
def pieces : Input → Option (List Piece × Input)
  | [] => none
  | none :: rest => (pieces rest).map (fun r => (.illFormed :: r.1, r.2))
  | some '"' :: rest => some ([], rest)
  | some '\\' :: rest =>
      match rest with
      | some 'u' :: some a :: some b :: some c :: some d :: rest => do
          let unit ← unit? a b c d
          let r ← pieces rest
          return (pieceOfUnit unit :: r.1, r.2)
      | some e :: rest => do
          let c ← escaped? e
          let r ← pieces rest
          return (.char c :: r.1, r.2)
      | _ => none
  | some c :: rest =>
      if c.toNat < 0x20 then none else (pieces rest).map (fun r => (.char c :: r.1, r.2))

/-- The text of a string: every half must be the first of a pair with the second behind it. -/
def text? : List Piece → Option (List Char)
  | [] => some []
  | .char c :: rest => (text? rest).map (c :: ·)
  | .half h :: .half l :: rest =>
      if h < 0xDC00 ∧ 0xDC00 ≤ l then
        (text? rest).map (Char.ofNat (0x10000 + (h - 0xD800) * 0x400 + (l - 0xDC00)) :: ·)
      else none
  | .half _ :: _ => none
  | .illFormed :: _ => none

/-- A string after its opening quote: the text it denotes, if any. -/
def stringBody? (cs : Input) : Option (Option String × Input) :=
  (pieces cs).map (fun r => ((text? r.1).map String.ofList, r.2))

/-! ## Numbers -/

/-- The digits in front. -/
def digits : Input → List Char × Input
  | some c :: rest =>
      if c.isDigit then
        let r := digits rest
        (c :: r.1, r.2)
      else ([], some c :: rest)
  | cs => ([], cs)

/-- The digits in front, at least one of them. -/
def digits? (cs : Input) : Option (List Char × Input) :=
  match digits cs with
  | ([], _) => none
  | r => some r

/-- The integer part of a number: a lone zero, or digits that do not start with one. -/
def whole? (cs : Input) : Option (List Char × Input) :=
  match digits cs with
  | ([], _) => none
  | (['0'], rest) => some (['0'], rest)
  | ('0' :: _, _) => none
  | r => some r

/-- The fraction of a number, if there is one. -/
def fraction? : Input → Option (Option (List Char) × Input)
  | some '.' :: rest => (digits? rest).map (fun r => (some r.1, r.2))
  | cs => some (none, cs)

/-- The exponent of a number, if there is one. -/
def exponent? : Input → Option (Option Int × Input)
  | some c :: rest =>
      if c = 'e' || c = 'E' then
        match rest with
        | some '-' :: rest =>
            (digits? rest).map (fun r => (some (-(Nat.ofDigitChars 10 r.1 0 : Int)), r.2))
        | some '+' :: rest =>
            (digits? rest).map (fun r => (some (Nat.ofDigitChars 10 r.1 0 : Int), r.2))
        | rest => (digits? rest).map (fun r => (some (Nat.ofDigitChars 10 r.1 0 : Int), r.2))
      else some (none, some c :: rest)
  | cs => some (none, cs)

/-- The number with the given parts. -/
def ofParts (negative : Bool) (whole : List Char) :
    Option (List Char) → Option Int → Json
  | none, none =>
      let n := Nat.ofDigitChars 10 whole 0
      if negative then
        if n = 0 then .decimal ⟨true, whole, [], 0⟩ else .integer (-(n : Int))
      else .integer n
  | part, exponent => .decimal ⟨negative, whole, part.getD [], exponent.getD 0⟩

/-- A number without its sign. -/
def unsignedNumber? (negative : Bool) (cs : Input) : Option (Json × Input) := do
  let (whole, cs) ← whole? cs
  let (part, cs) ← fraction? cs
  let (exponent, cs) ← exponent? cs
  return (ofParts negative whole part exponent, cs)

/-- A number. -/
def number? : Input → Option (Json × Input)
  | some '-' :: rest => unsignedNumber? true rest
  | cs => unsignedNumber? false cs

/-! ## Values -/

/-- An object from its members, of which each key may denote no text. -/
def ofMembers (ms : List (Option String × Json)) : Json :=
  match ms.mapM (fun m => m.1.map (fun k => (k, m.2))) with
  | some ms => .object ms
  | none => .unreadable

/-- A string as a value. -/
def ofText : Option String → Json
  | some s => .string s
  | none => .unreadable

/-- A member's key and the colon behind it. -/
def key? (cs : Input) : Option (Option String × Input) :=
  match skipSpace cs with
  | some '"' :: rest => do
      let (key, rest) ← stringBody? rest
      match skipSpace rest with
      | some ':' :: rest => some (key, rest)
      | _ => none
  | _ => none

mutual

/-- A value, with fuel for the values it contains. -/
def value? : Nat → Input → Option (Json × Input)
  | 0, _ => none
  | fuel + 1, cs =>
      match skipSpace cs with
      | some '"' :: rest => (stringBody? rest).map (fun r => (ofText r.1, r.2))
      | some '[' :: rest =>
          match skipSpace rest with
          | some ']' :: rest => some (.array [], rest)
          | rest => do
              let (j, rest) ← value? fuel rest
              let (js, rest) ← elements? fuel rest
              return (.array (j :: js), rest)
      | some '{' :: rest =>
          match skipSpace rest with
          | some '}' :: rest => some (.object [], rest)
          | rest => do
              let (key, rest) ← key? rest
              let (j, rest) ← value? fuel rest
              let (ms, rest) ← members? fuel rest
              return (ofMembers ((key, j) :: ms), rest)
      | some 'n' :: rest => (dropWord? ['u', 'l', 'l'] rest).map (fun r => (.null, r))
      | some 't' :: rest => (dropWord? ['r', 'u', 'e'] rest).map (fun r => (.bool true, r))
      | some 'f' :: rest => (dropWord? ['a', 'l', 's', 'e'] rest).map (fun r => (.bool false, r))
      | rest => number? rest

/-- The further elements of an array, with its closing bracket. -/
def elements? : Nat → Input → Option (List Json × Input)
  | 0, _ => none
  | fuel + 1, cs =>
      match skipSpace cs with
      | some ']' :: rest => some ([], rest)
      | some ',' :: rest => do
          let (j, rest) ← value? fuel rest
          let (js, rest) ← elements? fuel rest
          return (j :: js, rest)
      | _ => none

/-- The further members of an object, with its closing brace. -/
def members? : Nat → Input → Option (List (Option String × Json) × Input)
  | 0, _ => none
  | fuel + 1, cs =>
      match skipSpace cs with
      | some '}' :: rest => some ([], rest)
      | some ',' :: rest => do
          let (key, rest) ← key? rest
          let (j, rest) ← value? fuel rest
          let (ms, rest) ← members? fuel rest
          return ((key, j) :: ms, rest)
      | _ => none

end

/-- The value of a whole input. -/
def read? (cs : Input) : Option Json := do
  let (j, rest) ← value? (cs.length + 1) cs
  if skipSpace rest = [] then some j else none

/-- The value of a text. -/
def ofText? (s : String) : Option Json := read? (s.toList.map some)

/-- The value of a sequence of octets. -/
def ofOctets? (bs : List UInt8) : Option Json := read? (Utf8.decode bs)

end MediaMonitor.Json
