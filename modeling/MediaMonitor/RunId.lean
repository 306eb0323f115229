import MediaMonitor.Text.Hexadecimal

/-!
# Run ids

The number of a deletion run, of 128 bits as a rule.  It is written in hexadecimal as five groups of
8, 4, 4, 4 and 12 digits; a number that needs more digits has them in the first group.  It is read
in either case, with or without the hyphens, and with hyphens also between braces or behind
`urn:uuid:`, itself in either case.

Runs get their numbers one after another, and so no two of them have one id.  That is all that is
asked of ids: a source of random ones, of which no two are the same, can take its place.
-/

namespace MediaMonitor

/-- The id of a run. -/
structure RunId where
  number : Nat
  deriving DecidableEq, Repr, Inhabited

namespace RunId

/-- The last `width` hexadecimal digits of a number. -/
def lastDigits (n : Nat) : Nat → List Char
  | 0 => []
  | width + 1 => lastDigits (n / 16) width ++ [Nat.digitChar (n % 16)]

/-- The hexadecimal digits of a number, at least `width` of them. -/
def digits (width n : Nat) : List Char :=
  let ds := Nat.toDigits 16 n
  List.replicate (width - ds.length) '0' ++ ds

/-- The hyphenated form. -/
def textChars (r : RunId) : List Char :=
  digits 8 (r.number / Nat.pow 16 24) ++ '-' :: lastDigits (r.number / Nat.pow 16 20) 4 ++
    '-' :: lastDigits (r.number / Nat.pow 16 16) 4 ++
    '-' :: lastDigits (r.number / Nat.pow 16 12) 4 ++
    '-' :: lastDigits r.number 12

/-- The hyphenated form. -/
def text (r : RunId) : String := String.ofList r.textChars

/-- The number that hexadecimal digits denote. -/
def ofDigits? (cs : List Char) : Option RunId :=
  (cs.mapM Text.hexValue?).map (fun ds => ⟨ds.foldl (fun n d => n * 16 + d) 0⟩)

/-- Reads the hyphenated form. -/
def ofHyphenated? (cs : List Char) : Option RunId :=
  if cs.length = 36 ∧ [8, 13, 18, 23].all (fun i => cs[i]? = some '-') then
    ofDigits? (cs.take 8 ++ (cs.drop 9).take 4 ++ (cs.drop 14).take 4 ++ (cs.drop 19).take 4 ++
      cs.drop 24)
  else none

/-- What may stand in front of the hyphenated form, in either case. -/
def urn : List Char := ['u', 'r', 'n', ':', 'u', 'u', 'i', 'd', ':']

/-- Reads any of the forms. -/
def read? (cs : List Char) : Option RunId :=
  if cs.length = 32 then ofDigits? cs
  else if cs.length = 36 then ofHyphenated? cs
  else if cs.length = 38 ∧ cs.head? = some '\x7b' ∧ cs.getLast? = some '\x7d' then
    ofHyphenated? (cs.drop 1).dropLast
  else if (cs.take 9).map Char.toLower = urn then ofHyphenated? (cs.drop 9)
  else none

/-- Reads any of the forms. -/
def ofText? (s : String) : Option RunId := read? s.toList

end RunId

end MediaMonitor
