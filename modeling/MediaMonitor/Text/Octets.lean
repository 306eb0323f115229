/-!
# Places in a text by octets

The place of a character is the number of octets that the characters before it have in UTF-8.  A
text can be cut only where a character starts, or at its end.
-/

namespace MediaMonitor.Text

/-- The characters with their places, the first of them at `start`. -/
def places (start : Nat) : List Char → List (Nat × Char)
  | [] => []
  | c :: cs => (start, c) :: places (start + c.utf8Size) cs

/-- The parts of a text before and behind a place; `none` inside a character and beyond the end. -/
def cutAt? : Nat → List Char → Option (List Char × List Char)
  | 0, cs => some ([], cs)
  | _ + 1, [] => none
  | n + 1, c :: cs =>
      if c.utf8Size ≤ n + 1 then
        (cutAt? (n + 1 - c.utf8Size) cs).map (fun r => (c :: r.1, r.2))
      else none

/-- The part of a text behind a place. -/
def behind? (start : Nat) (cs : List Char) : Option (List Char) := (cutAt? start cs).map Prod.snd

/-- The part of a text between two places. -/
def between? (start stop : Nat) (cs : List Char) : Option (List Char) := do
  let (front, _) ← cutAt? stop cs
  behind? start front

example : between? 1 3 "aéb".toList = some ['é'] ∧ between? 2 3 "aéb".toList = none := by decide

end MediaMonitor.Text
