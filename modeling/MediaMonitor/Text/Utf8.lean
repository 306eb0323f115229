/-!
# UTF-8

A machine that reads UTF-8 one octet at a time.  Between characters it owes nothing; inside a
character it holds the bits read so far, the number of octets still owed and the range the next one
must lie in.  An octet outside that range ends an ill-formed part, and is then read as the start of
another character.

Reading gives a list of optional characters, in which `none` stands for one ill-formed part.  The
lossy text shows U+FFFD there; a text is well-formed when there is no `none`.  `Decoder` reads a
body that arrives in chunks and carries a character that a chunk cuts short to the next chunk.
-/

namespace MediaMonitor.Utf8

/-- A character of which some octets have been read: the bits they carry, the least and the greatest
octet that may follow, and the number of octets owed. -/
structure Partial where
  bits : Nat
  least : Nat
  greatest : Nat
  owed : Nat
  deriving DecidableEq, Repr

/-- The first octet of a character. -/
inductive Lead
  /-- A character of one octet. -/
  | single (c : Char)
  /-- The start of a longer character. -/
  | opens (p : Partial)
  /-- No character starts with it. -/
  | invalid

/-- What an octet opens. -/
def lead (b : UInt8) : Lead :=
  let n := b.toNat
  if n ≤ 0x7F then .single (Char.ofNat n)
  else if 0xC2 ≤ n ∧ n ≤ 0xDF then .opens ⟨n - 0xC0, 0x80, 0xBF, 1⟩
  else if n = 0xE0 then .opens ⟨0, 0xA0, 0xBF, 2⟩
  else if n = 0xED then .opens ⟨0xD, 0x80, 0x9F, 2⟩
  else if 0xE1 ≤ n ∧ n ≤ 0xEF then .opens ⟨n - 0xE0, 0x80, 0xBF, 2⟩
  else if n = 0xF0 then .opens ⟨0, 0x90, 0xBF, 3⟩
  else if 0xF1 ≤ n ∧ n ≤ 0xF3 then .opens ⟨n - 0xF0, 0x80, 0xBF, 3⟩
  else if n = 0xF4 then .opens ⟨4, 0x80, 0x8F, 3⟩
  else .invalid

/-- An octet between characters. -/
def start (b : UInt8) : List (Option Char) × Option Partial :=
  match lead b with
  | .single c => ([some c], none)
  | .opens p => ([], some p)
  | .invalid => ([none], none)

/-- One octet: what it completes, and the character it leaves open. -/
def step : Option Partial → UInt8 → List (Option Char) × Option Partial
  | none, b => start b
  | some p, b =>
      if p.least ≤ b.toNat ∧ b.toNat ≤ p.greatest then
        let bits := p.bits * 64 + (b.toNat - 0x80)
        if p.owed ≤ 1 then ([some (Char.ofNat bits)], none)
        else ([], some ⟨bits, 0x80, 0xBF, p.owed - 1⟩)
      else (none :: (start b).1, (start b).2)

/-- A sequence of octets: what it completes, and the character it leaves open. -/
def run : Option Partial → List UInt8 → List (Option Char) × Option Partial
  | p, [] => ([], p)
  | p, b :: rest =>
      let r := run (step p b).2 rest
      ((step p b).1 ++ r.1, r.2)

/-- What a character left open amounts to at the end: an ill-formed part. -/
def leftover : Option Partial → List (Option Char)
  | none => []
  | some _ => [none]

/-- The characters and ill-formed parts of a whole sequence. -/
def decode (bs : List UInt8) : List (Option Char) :=
  let r := run none bs
  r.1 ++ leftover r.2

/-- The text with U+FFFD in place of each ill-formed part. -/
def lossy (cs : List (Option Char)) : List Char := cs.map (·.getD '\ufffd')

/-- The text of a well-formed sequence. -/
def wellFormed : List (Option Char) → Option (List Char)
  | [] => some []
  | none :: _ => none
  | some c :: rest => (wellFormed rest).map (c :: ·)

/-- The text of a sequence of octets, if it is UTF-8. -/
def toText? (bs : List UInt8) : Option String := (wellFormed (decode bs)).map String.ofList

/-- The text of a sequence of octets, with U+FFFD in place of each ill-formed part. -/
def toTextLossy (bs : List UInt8) : String := String.ofList (lossy (decode bs))

/-- The octets of a text. -/
def ofText (s : String) : List UInt8 := s.toList.flatMap String.utf8EncodeChar

/-- Running over two parts is running over the first, then the second. -/
theorem run_append (p : Option Partial) (xs ys : List UInt8) :
    run p (xs ++ ys) =
      ((run p xs).1 ++ (run (run p xs).2 ys).1, (run (run p xs).2 ys).2) := by
  induction xs generalizing p with
  | nil => simp [run]
  | cons b xs ih => simp [run, ih, List.append_assoc]

/-! ## Bodies in chunks -/

/-- A reader of a body in chunks: the character the last chunk cut short. -/
structure Decoder where
  carried : Option Partial := none
  deriving DecidableEq, Repr

namespace Decoder

/-- Reads one chunk.  A character the chunk cuts short is carried over, unless the chunk holds an
ill-formed part: then it is given up with the chunk. -/
def push (d : Decoder) (bs : List UInt8) : List Char × Decoder :=
  let r := run d.carried bs
  if r.1.all Option.isSome then (lossy r.1, ⟨r.2⟩)
  else (lossy (r.1 ++ leftover r.2), ⟨none⟩)

/-- What is carried at the end of the body. -/
def finish (d : Decoder) : List Char := lossy (leftover d.carried)

end Decoder

example : decode [0x61, 0xC3, 0xA9, 0xE2, 0x82, 0x22, 0xF0, 0x9F, 0x8E, 0xAC] =
    [some 'a', some 'é', none, some '"', some '🎬'] := by decide

end MediaMonitor.Utf8
