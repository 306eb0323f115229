import MediaMonitor.Calendar.Date
import MediaMonitor.Text.Blank
import MediaMonitor.Text.Integer

/-!
# Instants

A point of time in UTC to the nanosecond; a minute may have a sixty-first second.  It is written
`2024-02-29T23:59:60.5Z`, with no fraction or with the 3, 6 or 9 digits that show it exactly.  It is
read from a looser form: a date, `T` or a space, a time and an offset, where white space may precede
each number and sign, numbers may lack leading zeros, and the offset may be `Z`, `UTC` or hours and
minutes.
-/

namespace MediaMonitor

/-- The time exists. -/
def IsTime (hour minute second nano : Nat) : Prop :=
  hour < 24 ∧ minute < 60 ∧ second ≤ 60 ∧ nano < 1000000000

instance (hour minute second nano : Nat) : Decidable (IsTime hour minute second nano) := by
  unfold IsTime; infer_instance

/-- A point of time in UTC. -/
structure Instant where
  date : Date
  hour : Nat
  minute : Nat
  second : Nat
  nano : Nat
  isTime : IsTime hour minute second nano
  deriving DecidableEq, Repr

namespace Instant

open Text

/-! ## Writing -/

/-- A number in at least `width` digits. -/
def padded (width n : Nat) : List Char :=
  let ds := natDigits n
  List.replicate (width - ds.length) '0' ++ ds

/-- The year: four digits, or a sign and at least four digits outside the years 0 to 9999. -/
def writeYear (year : Int) : List Char :=
  if 0 ≤ year ∧ year ≤ 9999 then padded 4 year.toNat
  else (if year < 0 then '-' else '+') :: padded 4 year.natAbs

/-- The fraction of a second. -/
def writeFraction (nano : Nat) : List Char :=
  if nano = 0 then []
  else if nano % 1000000 = 0 then '.' :: padded 3 (nano / 1000000)
  else if nano % 1000 = 0 then '.' :: padded 6 (nano / 1000)
  else '.' :: padded 9 nano

/-- The written form. -/
def writeChars (t : Instant) : List Char :=
  writeYear t.date.year ++ '-' :: padded 2 t.date.month ++ '-' :: padded 2 t.date.day ++
    'T' :: padded 2 t.hour ++ ':' :: padded 2 t.minute ++ ':' :: padded 2 t.second ++
    writeFraction t.nano ++ ['Z']

/-- The written form. -/
def write (t : Instant) : String := String.ofList t.writeChars

/-! ## Reading -/

/-- Drops the white space in front. -/
def skipBlank (cs : List Char) : List Char := cs.dropWhile isBlank

/-- The longest run of at most `width` digits in front, which is not empty. -/
def digits? (width : Nat) (cs : List Char) : Option (Nat × List Char) :=
  let ds := (cs.take width).takeWhile Char.isDigit
  if ds = [] then none else some (Nat.ofDigitChars 10 ds 0, cs.drop ds.length)

/-- A number of at most `width` digits, with white space in front. -/
def number? (width : Nat) (cs : List Char) : Option (Nat × List Char) :=
  digits? width (skipBlank cs)

/-- A year: at most four digits, or any number of them behind a sign. -/
def year? (cs : List Char) : Option (Int × List Char) :=
  match skipBlank cs with
  | '-' :: rest => (digits? rest.length rest).map (fun r => (-(r.1 : Int), r.2))
  | '+' :: rest => (digits? rest.length rest).map (fun r => ((r.1 : Int), r.2))
  | rest => (digits? 4 rest).map (fun r => ((r.1 : Int), r.2))

/-- A mark with white space in front. -/
def mark? (c : Char) (cs : List Char) : Option (List Char) :=
  match skipBlank cs with
  | d :: rest => if d = c then some rest else none
  | [] => none

/-- A fraction of a second, if there is one: its first nine digits count. -/
def fraction? : List Char → Option (Nat × List Char)
  | '.' :: rest =>
      (digits? 9 rest).map (fun r =>
        (r.1 * Nat.pow 10 (9 - (rest.length - r.2.length)), r.2.dropWhile Char.isDigit))
  | cs => some (0, cs)

/-- Two digits. -/
def twoDigits? : List Char → Option (Nat × List Char)
  | a :: b :: rest =>
      if a.isDigit ∧ b.isDigit then some (Nat.ofDigitChars 10 [a, b] 0, rest) else none
  | _ => none

/-- The hours and minutes of an offset, in minutes. -/
def hoursMinutes? (cs : List Char) : Option (Nat × List Char) := do
  let (hours, cs) ← twoDigits? cs
  let (minutes, cs) ← twoDigits? (cs.dropWhile (fun c => c = ':' || isBlank c))
  if minutes < 60 then some (hours * 60 + minutes, cs) else none

/-- An offset from UTC, in minutes. -/
def offset? (cs : List Char) : Option (Int × List Char) :=
  match cs with
  | '+' :: rest => (hoursMinutes? rest).map (fun r => ((r.1 : Int), r.2))
  | '-' :: rest => (hoursMinutes? rest).map (fun r => (-(r.1 : Int), r.2))
  | '\u2212' :: rest => (hoursMinutes? rest).map (fun r => (-(r.1 : Int), r.2))
  | c :: rest =>
      if (cs.take 3).map Char.toUpper = ['U', 'T', 'C'] then some (0, cs.drop 3)
      else if c = 'Z' ∨ c = 'z' then some (0, rest)
      else none
  | [] => none

/-- The instant of a local date and time at an offset of less than a day. -/
def ofLocal? (date : Date) (hour minute second nano : Nat) (offset : Int) : Option Instant :=
  if offset.natAbs < 1440 then do
    let minutes : Int := (hour * 60 + minute : Nat) - offset
    let date ←
      if minutes < 0 then date.previous?
      else if 1440 ≤ minutes then date.next?
      else some date
    let minutes := (minutes % 1440).toNat
    if h : IsTime (minutes / 60) (minutes % 60) second nano then
      some ⟨date, minutes / 60, minutes % 60, second, nano, h⟩
    else none
  else none

/-- Reads an instant. -/
def read? (cs : List Char) : Option Instant := do
  let (year, cs) ← year? cs
  let (month, cs) ← (mark? '-' cs).bind (number? 2)
  let (day, cs) ← (mark? '-' cs).bind (number? 2)
  let date ← Date.of? year month day
  let cs ← match cs with
    | c :: rest => if c = 'T' ∨ c = 't' ∨ c = ' ' then some rest else none
    | [] => none
  let (hour, cs) ← number? 2 cs
  let (minute, cs) ← (mark? ':' cs).bind (number? 2)
  let (second, cs) ← (mark? ':' cs).bind (number? 2)
  let (nano, cs) ← fraction? cs
  if hour < 24 ∧ minute < 60 then
    let (offset, cs) ← offset? (skipBlank cs)
    if skipBlank cs = [] then ofLocal? date hour minute second nano offset else none
  else none

/-- Reads an instant. -/
def ofText? (s : String) : Option Instant := read? s.toList

end Instant

end MediaMonitor
