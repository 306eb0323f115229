import MediaMonitor.Text.Alphanumeric
import MediaMonitor.Text.Blank
import MediaMonitor.Text.Hexadecimal

/-!
# Patterns for field values

A directive of a log filter may ask for the value of a field: for a number, or for a text that a
regular expression describes.  `LogPattern.isWellFormed` says whether a text is one.

Such a text stands between braces and has no closing brace of its own.  So nothing that needs one is
well-formed: neither a repetition with counts nor the long forms of escapes.  The same holds of what
needs a table of Unicode properties: classes such as `\d`, word boundaries, and letters without
regard to case, unless a flag takes the part of the pattern out of Unicode.  There classes are made
of octets, and must not hold octets beyond ASCII.
-/

namespace MediaMonitor

/-- How a part of a pattern is read. -/
structure PatternMode where
  /-- White space and comments are left out. -/
  spaced : Bool := false
  /-- Letters stand for both their cases. -/
  folded : Bool := false
  /-- The pattern is about characters; otherwise it is about octets. -/
  unicode : Bool := true
  deriving DecidableEq, Repr

/-- One item of a pattern. -/
inductive PatternItem where
  /-- A character, which may be written as an octet. -/
  | literal (c : Char) (octet : Bool)
  /-- A class that has a letter of its own. -/
  | letterClass
  /-- A condition on the place. -/
  | assertion
  deriving DecidableEq, Repr

namespace PatternMode

/-- The mode with a flag on or off; `none` when there is no such flag. -/
def set? (m : PatternMode) (on : Bool) : Char → Option PatternMode
  | 'x' => some { m with spaced := on }
  | 'i' => some { m with folded := on }
  | 'u' => some { m with unicode := on }
  | 'm' | 's' | 'R' | 'U' => some m
  | _ => none

/-- The cases of characters matter, for which there is no table. -/
def needsCases (m : PatternMode) : Bool := m.folded && m.unicode

/-- A character may stand outside a class. -/
def takes (m : PatternMode) (c : Char) (octet : Bool) : Bool :=
  !m.needsCases && (m.unicode || !octet || c.toNat < 0x80)

/-- A character may stand in a class. -/
def takesInClass (m : PatternMode) (c : Char) : Bool :=
  !m.needsCases && (m.unicode || c.toNat < 0x80)

/-- An item may stand in a class. -/
def takesMember (m : PatternMode) : PatternItem → Bool
  | .literal c _ => m.takesInClass c
  | .letterClass => true
  | .assertion => false

/-- Two items may be the ends of a range in a class. -/
def takesRange (m : PatternMode) : PatternItem → PatternItem → Bool
  | .literal a _, .literal b _ => m.takesInClass a && m.takesInClass b && a ≤ b
  | _, _ => false

/-- A class with a name, negated or not, may stand in a class. -/
def takesNamed (m : PatternMode) (negated : Bool) : Bool :=
  !m.needsCases && (m.unicode || !negated)

/-- Drops white space and comments, where they are left out.  In a comment everything up to the end
of the line is dropped. -/
def skip (m : PatternMode) (inComment : Bool) : List Char → List Char
  | [] => []
  | c :: cs =>
      if !m.spaced then c :: cs
      else if inComment then skip m (c ≠ '\n') cs
      else if Text.isBlank c then skip m false cs
      else if c = '#' then skip m true cs
      else c :: cs

/-- The rest of a pattern that matters. -/
def next (m : PatternMode) (cs : List Char) : List Char := m.skip false cs

end PatternMode

/-- Where the reading of a pattern has come to. -/
structure PatternState where
  mode : PatternMode := {}
  /-- The modes around the groups that are open, the innermost first. -/
  outer : List PatternMode := []
  /-- The names of groups so far. -/
  names : List (List Char) := []
  /-- There is something in front that can be repeated. -/
  repeatable : Bool := false
  deriving DecidableEq, Repr

/-- Where the reading of a class has come to. -/
inductive ClassPlace where
  | opened
  | behindHyphens
  | inside
  deriving DecidableEq, Repr

namespace LogPattern

/-! ## Escapes -/

/-- The number of so many hexadecimal digits. -/
def hexDigits? (m : PatternMode) : Nat → Nat → List Char → Option (Nat × List Char)
  | 0, n, cs => some (n, cs)
  | count + 1, n, cs =>
      match m.next cs with
      | c :: rest => (Text.hexValue? c).bind (fun d => hexDigits? m count (n * 16 + d) rest)
      | [] => none

/-- The character with a number of so many hexadecimal digits; two of them are an octet. -/
def hex? (m : PatternMode) (count : Nat) (cs : List Char) : Option (PatternItem × List Char) :=
  match hexDigits? m count 0 cs with
  | some (n, rest) =>
      if n.isValidChar then some (.literal (Char.ofNat n) (count = 2), rest) else none
  | none => none

/-- The control character that a letter stands for. -/
def control? : Char → Option Char
  | 'a' => some '\x07'
  | 'f' => some '\x0c'
  | 'n' => some '\n'
  | 'r' => some '\r'
  | 't' => some '\t'
  | 'v' => some '\x0b'
  | _ => none

/-- What stands behind a backslash. -/
def escape? (m : PatternMode) : List Char → Option (PatternItem × List Char)
  | [] => none
  | c :: rest =>
      if c = 'x' then hex? m 2 rest
      else if c = 'u' then hex? m 4 rest
      else if c = 'U' then hex? m 8 rest
      else if c ∈ ['d', 's', 'w'] then if m.unicode then none else some (.letterClass, rest)
      else if c ∈ ['b', 'B', '<', '>'] then if m.unicode then none else some (.assertion, rest)
      else if c ∈ ['A', 'z'] then some (.assertion, rest)
      else
        match control? c with
        | some c => some (.literal c false, rest)
        | none =>
            if c.toNat < 0x80 ∧ !c.isAlphanum then some (.literal c false, rest) else none

/-! ## Classes -/

/-- A member of a class. -/
def member? (m : PatternMode) : List Char → Option (PatternItem × List Char)
  | [] => none
  | '\\' :: rest => escape? m rest
  | c :: rest => some (.literal c false, rest)

/-- The classes that have a name. -/
def classNames : List String :=
  ["alnum", "alpha", "ascii", "blank", "cntrl", "digit", "graph", "lower", "print", "punct",
    "space", "upper", "word", "xdigit"]

/-- A class with a name behind its opening bracket: whether it is negated, and the rest. -/
def namedClass? : List Char → Option (Bool × List Char)
  | ':' :: rest =>
      let negated := rest.head? = some '^'
      let rest := if negated then rest.tail else rest
      match rest.dropWhile (· ≠ ':') with
      | ':' :: ']' :: behind =>
          if String.ofList (rest.takeWhile (· ≠ ':')) ∈ classNames then some (negated, behind)
          else none
      | _ => none
  | _ => none

/-- What is behind the opening bracket of a class and the sign of negation.  A negated class of
octets would hold some beyond ASCII. -/
def opening? (m : PatternMode) (cs : List Char) : Option (List Char) :=
  match m.next cs with
  | '^' :: rest => if m.unicode then some rest else none
  | rest => some rest

/-- What is behind a class, with fuel for its characters and the number of classes around it.
Hyphens at its start, and a bracket there, stand for themselves; two classes may be combined by a
doubled sign. -/
def behindClass? (m : PatternMode) : Nat → Nat → ClassPlace → List Char → Option (List Char)
  | 0, _, _, _ => none
  | fuel + 1, depth, place, cs =>
      match m.next cs with
      | [] => none
      | c :: rest =>
          if c = '-' ∧ place ≠ .inside then
            if m.takesInClass c then behindClass? m fuel depth .behindHyphens rest else none
          else if c = ']' ∧ place = .opened then
            if m.takesInClass c then behindClass? m fuel depth .inside rest else none
          else if c = ']' then
            match depth with
            | 0 => some rest
            | depth + 1 => behindClass? m fuel depth .inside rest
          else if c = '[' then
            match namedClass? rest with
            | some (negated, rest) =>
                if m.takesNamed negated then behindClass? m fuel depth .inside rest else none
            | none =>
                (opening? m rest).bind (fun rest => behindClass? m fuel (depth + 1) .opened rest)
          else if c ∈ ['&', '-', '~'] ∧ rest.head? = some c then
            behindClass? m fuel depth .inside rest.tail
          else
            match member? m (c :: rest) with
            | none => none
            | some (first, rest) =>
                let rest := m.next rest
                let behind := m.next rest.tail
                if rest.head? = some '-' ∧ behind.head? ≠ some ']' ∧ behind.head? ≠ some '-' then
                  match member? m behind with
                  | some (last, rest) =>
                      if m.takesRange first last then behindClass? m fuel depth .inside rest
                      else none
                  | none => none
                else if m.takesMember first then behindClass? m fuel depth .inside rest
                else none

/-- What is behind a class, from behind its opening bracket. -/
def class? (m : PatternMode) (cs : List Char) : Option (List Char) :=
  (opening? m cs).bind (fun cs => behindClass? m (cs.length + 1) 0 .opened cs)

/-! ## Groups -/

/-- The flags of a group: the mode they set, whether they stand alone, and the rest.  A flag stands
once at most, the ones behind a hyphen are off, and a hyphen is not the last. -/
def flags? (m : PatternMode) (seen : List Char) :
    List Char → Option (PatternMode × Bool × List Char)
  | [] => none
  | c :: rest =>
      if c = ':' then if seen.head? = some '-' then none else some (m, false, rest)
      else if c = ')' then
        if seen = [] ∨ seen.head? = some '-' then none else some (m, true, rest)
      else if c ∈ seen then none
      else if c = '-' then flags? m (c :: seen) rest
      else (m.set? ('-' ∉ seen) c).bind (fun m => flags? m (c :: seen) rest)

/-- The text may be the name of a group. -/
def isGroupName : List Char → Bool
  | [] => false
  | c :: cs =>
      (c = '_' || Text.isAlphabetic c) &&
        cs.all (fun c => c ∈ ['_', '.', '[', ']'] || Text.isAlphanumeric c)

/-- The state inside a group. -/
def inside (s : PatternState) (m : PatternMode) : PatternState :=
  { s with mode := m, outer := s.mode :: s.outer, repeatable := false }

/-- The state in a group with a name, from behind the name's opening bracket. -/
def namedGroup? (s : PatternState) (cs : List Char) : Option (PatternState × List Char) :=
  let name := cs.takeWhile (· ≠ '>')
  match cs.dropWhile (· ≠ '>') with
  | [] => none
  | _ :: rest =>
      if isGroupName name ∧ name ∉ s.names then
        some (inside { s with names := name :: s.names } s.mode, rest)
      else none

/-- The state behind an opening parenthesis and what belongs to it. -/
def group? (s : PatternState) (cs : List Char) : Option (PatternState × List Char) :=
  match s.mode.next cs with
  | '?' :: 'P' :: '<' :: rest => namedGroup? s rest
  | '?' :: '<' :: rest => namedGroup? s rest
  | '?' :: rest =>
      (flags? s.mode [] rest).map (fun (m, alone, rest) =>
        (if alone then { s with mode := m, repeatable := false } else inside s m, rest))
  | rest => some (inside s s.mode, rest)

/-! ## Patterns -/

/-- One step: the state behind the first thing in a text, and the rest. -/
def step? (s : PatternState) : List Char → Option (PatternState × List Char)
  | [] => none
  | '(' :: rest => group? s rest
  | ')' :: rest =>
      match s.outer with
      | [] => none
      | m :: outer => some ({ s with mode := m, outer := outer, repeatable := true }, rest)
  | '|' :: rest => some ({ s with repeatable := false }, rest)
  | '[' :: rest => (class? s.mode rest).map (fun rest => ({ s with repeatable := true }, rest))
  | '{' :: _ => none
  | '\\' :: rest =>
      match escape? s.mode rest with
      | some (.literal c octet, rest) =>
          if s.mode.takes c octet then some ({ s with repeatable := true }, rest) else none
      | some (_, rest) => some ({ s with repeatable := true }, rest)
      | none => none
  | '.' :: rest => if s.mode.unicode then some ({ s with repeatable := true }, rest) else none
  | c :: rest =>
      if c ∈ ['?', '*', '+'] then
        if s.repeatable then some (s, if rest.head? = some '?' then rest.tail else rest) else none
      else if c ∈ ['^', '$'] then some ({ s with repeatable := true }, rest)
      else if s.mode.takes c false then some ({ s with repeatable := true }, rest)
      else none

/-- The rest of a pattern can be read, with fuel for its characters. -/
def canRead : Nat → PatternState → List Char → Bool
  | 0, _, _ => false
  | fuel + 1, s, cs =>
      match s.mode.next cs with
      | [] => s.outer.isEmpty
      | cs =>
          match step? s cs with
          | some (s, rest) => canRead fuel s rest
          | none => false

/-- The text is a regular expression. -/
def isRegular (cs : List Char) : Bool := canRead (cs.length + 1) {} cs

/-! ## Numbers -/

/-- Digits, with or without a point among them. -/
def isPointed (cs : List Char) : Bool :=
  let whole := cs.takeWhile Char.isDigit
  match cs.dropWhile Char.isDigit with
  | [] => whole ≠ []
  | '.' :: part => part.all Char.isDigit && (whole ≠ [] || part ≠ [])
  | _ => false

/-- Digits behind at most one sign. -/
def isExponent (cs : List Char) : Bool :=
  let ds := match cs with
    | '+' :: ds => ds
    | '-' :: ds => ds
    | ds => ds
  ds ≠ [] && ds.all Char.isDigit

/-- The text without a sign is a number, or the word for one that is infinite or no number. -/
def isNumber (cs : List Char) : Bool :=
  let word := String.ofList (cs.map Char.toLower)
  let isMark := fun (c : Char) => c = 'e' || c = 'E'
  word ∈ ["inf", "infinity", "nan"] ||
    (match cs.dropWhile (fun c => !isMark c) with
    | [] => isPointed cs
    | _ :: exponent => isPointed (cs.takeWhile (fun c => !isMark c)) && isExponent exponent)

/-- The text describes values: it is a number with a plus sign, which would not be a regular
expression, or it is a regular expression, as any other number is. -/
def isWellFormed (cs : List Char) : Bool :=
  match cs with
  | '+' :: rest => isNumber rest
  | cs => isRegular cs

example : isWellFormed "a|(b*)+?[^x-z]".toList = true ∧ isWellFormed "(a".toList = false ∧
    isWellFormed "a|*".toList = false ∧ isWellFormed "+1.5".toList = true := by decide +kernel

example : isWellFormed "[z-a]".toList = false ∧ isWellFormed "\\d".toList = false ∧
    isWellFormed "(?-u)\\d".toList = true := by decide +kernel

end LogPattern

end MediaMonitor
