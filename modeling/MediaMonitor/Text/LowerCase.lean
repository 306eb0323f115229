/-!
# Lower case

The lower-case form of a text as far as the letters of ASCII go.  Beside `A` to `Z` two characters
have such letters in their lower-case form: the Kelvin sign becomes `k`, and the dotted capital `İ`
becomes `i` with a combining dot.  Every other character stays, since none of them can take part in
a word written in ASCII.
-/

namespace MediaMonitor.Text

/-- The lower-case form of a character, as far as the letters of ASCII go. -/
def lowerChar (c : Char) : List Char :=
  if c.isUpper then [c.toLower]
  else if c = '\u212a' then ['k']
  else if c = '\u0130' then ['i', '\u0307']
  else [c]

/-- The lower-case form of a text, as far as the letters of ASCII go. -/
def lowerChars (cs : List Char) : List Char := cs.flatMap lowerChar

/-- `w` occurs in `cs`. -/
def occursIn (w : List Char) : List Char → Bool
  | [] => w.isEmpty
  | c :: rest => w.isPrefixOf (c :: rest) || occursIn w rest

example : lowerChars "To\u212aEN".toList = "token".toList := by decide

end MediaMonitor.Text
