/-!
# Integers in text

An integer is written in decimal with a minus sign in front when it is negative, without a plus sign
and without leading zeros.  `unsigned?` reads the looser form of a setting, in which a plus sign and
leading zeros may stand.
-/

namespace MediaMonitor.Text

/-- The decimal digits of a number. -/
def natDigits (n : Nat) : List Char := Nat.toDigits 10 n

/-- The decimal form of an integer. -/
def intChars : Int → List Char
  | .ofNat n => natDigits n
  | .negSucc n => '-' :: natDigits (n + 1)

/-- The value of a non-empty string of digits. -/
def nat? (cs : List Char) : Option Nat :=
  if cs ≠ [] ∧ cs.all Char.isDigit then some (Nat.ofDigitChars 10 cs 0) else none

/-- Reads the decimal form of an integer, and nothing else. -/
def int? (cs : List Char) : Option Int :=
  let i? : Option Int := match cs with
    | '-' :: ds => (nat? ds).map (fun n => -(n : Int))
    | ds => (nat? ds).map Int.ofNat
  i?.filter (fun i => intChars i = cs)

/-- Reads a number of at most 64 bits, with or without a plus sign and leading zeros. -/
def unsigned? (cs : List Char) : Option UInt64 :=
  let ds := match cs with
    | '+' :: ds => ds
    | ds => ds
  (nat? ds).bind (fun n => if n < UInt64.size then some (UInt64.ofNat n) else none)

/-- The decimal form of an integer, as a text. -/
def ofInt (i : Int) : String := String.ofList (intChars i)

/-- The decimal form of a number, as a text. -/
def ofNat (n : Nat) : String := String.ofList (natDigits n)

example : int? "-12".toList = some (-12) ∧ int? "-0".toList = none ∧ int? "+1".toList = none := by
  decide

example : unsigned? "+007".toList = some 7 ∧ unsigned? "+".toList = none := by decide

end MediaMonitor.Text
