import MediaMonitor.Number.Double
import MediaMonitor.Text.Integer

/-!
# Number literals

A number as it is written in data: digits before and behind the point, and a power of ten.
`NumberLiteral.double?` is the double it is read as.  Of the digits, those count that make up an
integer of 64 bits; that integer is rounded to a double, which is then multiplied or divided by the
double nearest to the power of ten and rounded again.  So the result may be next to the double
nearest to the number, rather than that double itself.
-/

namespace MediaMonitor

/-- A number as it is written: `± whole.fraction · 10 ^ exponent`. -/
structure NumberLiteral where
  negative : Bool
  /-- The digits before the point. -/
  whole : List Char
  /-- The digits behind the point. -/
  fraction : List Char := []
  exponent : Int := 0
  deriving DecidableEq, Repr

namespace NumberLiteral

/-- An integer as it is written. -/
def ofInt (i : Int) : NumberLiteral := ⟨i < 0, Text.natDigits i.natAbs, [], 0⟩

/-- An integer with one more digit, as long as it has 64 bits. -/
def push? (n : Nat) (c : Char) : Option Nat :=
  let m := n * 10 + (c.toNat - 0x30)
  if m < UInt64.size then some m else none

/-- The integer of the digits before the point, and the number of them that it has no room for. -/
def gatherWhole (n : Nat) : List Char → Nat × Nat
  | [] => (n, 0)
  | c :: cs =>
      match push? n c with
      | some m => gatherWhole m cs
      | none => (n, cs.length + 1)

/-- The integer with the digits behind the point that it has room for, and the number of them. -/
def gatherFraction (n : Nat) : List Char → Nat × Nat
  | [] => (n, 0)
  | c :: cs =>
      match push? n c with
      | some m =>
          let r := gatherFraction m cs
          (r.1, r.2 + 1)
      | none => (n, 0)

/-- The integer that counts of a number, and the power of ten to multiply it with. -/
def significand (l : NumberLiteral) : Nat × Int :=
  let (n, dropped) := gatherWhole 0 l.whole
  let (n, taken) := gatherFraction n l.fraction
  (n, l.exponent + dropped - taken)

/-- The greatest power of ten that is a double. -/
def greatestPower : Nat := 308

/-- The double nearest to a power of ten. -/
def tenTo? (e : Nat) : Option Double := Double.ofNat? (Nat.pow 10 e)

/-- A double divided by a power of ten. -/
def divide? (d : Double) (e : Nat) : Option Double := (tenTo? e).bind d.over?

/-- A double divided by the greatest power of ten a number of times, or until it is zero. -/
def shrink? (d : Double) : Nat → Option Double
  | 0 => some d
  | n + 1 =>
      if d.mantissa = 0 then some d else (divide? d greatestPower).bind (fun d => shrink? d n)

/-- A double times a power of ten; `none` when it is too large for a double.  A negative power is
reached in steps of the greatest one and a last step of what remains. -/
def scale? (d : Double) (e : Int) : Option Double :=
  if d.mantissa = 0 then some d
  else if 0 ≤ e then
    if e ≤ greatestPower then (tenTo? e.toNat).bind d.times? else none
  else
    let n := (-e).toNat
    let steps := (n - 1) / greatestPower
    (shrink? d steps).bind (fun d => divide? d (n - steps * greatestPower))

/-- The double that a number is read as, or `none` when it is too large for one. -/
def double? (l : NumberLiteral) : Option Double := do
  let (n, e) := l.significand
  let d ← Double.ofNat? n
  let d ← scale? d e
  return { d with negative := l.negative }

example : significand ⟨false, "18446744073709551620".toList, "5".toList, 0⟩ =
    (1844674407370955162, 1) := by decide +kernel

example : significand ⟨false, "0".toList, "30".toList, 2⟩ = (30, 0) := by decide +kernel

example : double? ⟨true, "2".toList, "50".toList, -1⟩ = some ⟨true, Nat.pow 2 52, -54⟩ ∧
    double? ⟨false, "1".toList, [], 309⟩ = none := by
  decide +kernel

end NumberLiteral

end MediaMonitor
