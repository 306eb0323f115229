import MediaMonitor.Number.Rounding

/-!
# Doubles in decimal

A finite double is a sign, an integer below 2^53 and a power of two.  `Double.ofRatio?` is the
double nearest to a quotient, an exact half going to the even one; products and quotients of doubles
are rounded by it.  `Double.shortest` gives the fewest decimal digits to which the double is the
nearest one, and of those the nearest to it.  There are two written forms: a plain one without an
exponent, and one that turns to an exponent, with its sign, for large and small numbers and always
shows that the number is not an integer type.
-/

namespace MediaMonitor

/-- A finite double: `mantissa · 2 ^ exponent`, with a sign. -/
structure Double where
  negative : Bool
  mantissa : Nat
  exponent : Int
  deriving DecidableEq, Repr

/-- Decimal digits and a power of ten: `digits · 10 ^ exponent`. -/
structure Digits where
  digits : Nat
  exponent : Int
  deriving DecidableEq, Repr

namespace Double

/-- A power as a numerator and a denominator. -/
def power (base : Nat) (e : Int) : Nat × Nat :=
  if 0 ≤ e then (Nat.pow base e.toNat, 1) else (1, Nat.pow base (-e).toNat)

/-- The least exponent of a double. -/
def leastExponent : Int := -1074

/-- The double nearest to `num / den`, or `none` when it is too large for one. -/
def ofRatio? (negative : Bool) (num den : Nat) : Option Double :=
  if num = 0 then some ⟨negative, 0, leastExponent⟩
  else
    -- A first guess that leaves 53 or 54 bits, then the one that leaves 53.
    let guess : Int := (num.log2 : Int) - (den.log2 : Int) - 52
    let scaled (e : Int) : Nat × Nat :=
      let p := power 2 e
      (num * p.2, den * p.1)
    let below := fun (e : Int) => (scaled e).1 < Nat.pow 2 52 * (scaled e).2
    let e := max leastExponent (if below guess then guess - 1 else guess)
    let m := roundHalfEven (scaled e).1 (scaled e).2
    let (m, e) := if m = Nat.pow 2 53 then (Nat.pow 2 52, e + 1) else (m, e)
    if 971 < e then none else some ⟨negative, m, e⟩

/-- The double nearest to an integer, or `none` when it is too large for one. -/
def ofNat? (n : Nat) : Option Double := ofRatio? false n 1

/-- The double nearest to a product, or `none` when it is too large for one. -/
def times? (a b : Double) : Option Double :=
  let p := power 2 (a.exponent + b.exponent)
  ofRatio? (a.negative != b.negative) (a.mantissa * b.mantissa * p.1) p.2

/-- The double nearest to a quotient, or `none` when it is too large for one or the divisor is
zero. -/
def over? (a b : Double) : Option Double :=
  let p := power 2 (a.exponent - b.exponent)
  if b.mantissa = 0 then none
  else ofRatio? (a.negative != b.negative) (a.mantissa * p.1) (b.mantissa * p.2)

/-- The exponent of the first decimal digit of `num / den`. -/
def firstDigit (num den : Nat) : Int :=
  let guess : Int := ((Nat.toDigits 10 num).length : Int) - (Nat.toDigits 10 den).length
  let p := power 10 guess
  if num * p.2 < den * p.1 then guess - 1 else guess

/-- The multiple of `10 ^ e` to which the double is the nearest one, the nearest of them to it, if
there is one. -/
def onGrid? (d : Double) (e : Int) : Option Nat :=
  let two := power 2 (d.exponent - 2)
  let ten := power 10 e
  let unit := ten.1 * two.2
  -- All values are in quarters of the last binary place, and a multiple `k` weighs `k · unit`.
  let value := 4 * d.mantissa * two.1 * ten.2
  let low := (4 * d.mantissa -
    (if d.mantissa = Nat.pow 2 52 ∧ leastExponent < d.exponent then 1 else 2)) * two.1 * ten.2
  let high := (4 * d.mantissa + 2) * two.1 * ten.2
  let closed := d.mantissa % 2 = 0
  let inside := fun (k : Nat) =>
    if closed then low ≤ k * unit ∧ k * unit ≤ high else low < k * unit ∧ k * unit < high
  let k := value / unit
  let nearer := roundHalfEven value unit
  if inside nearer then some nearer
  else if inside k then some k
  else if inside (k + 1) then some (k + 1)
  else none

/-- The first grid of at most `n` more digits that holds a decimal for the double. -/
def search (d : Double) (first : Int) : Nat → Nat → Digits
  | 0, _ => ⟨0, 0⟩
  | n + 1, count =>
      let e := first - count
      match onGrid? d e with
      | some k => if k = 0 then search d first n (count + 1) else ⟨k, e⟩
      | none => search d first n (count + 1)

/-- Drops the trailing zeros of at most `n` digits. -/
def dropZeros : Nat → Digits → Digits
  | 0, d => d
  | n + 1, d =>
      if d.digits ≠ 0 ∧ d.digits % 10 = 0 then dropZeros n ⟨d.digits / 10, d.exponent + 1⟩ else d

/-- The fewest decimal digits to which the double is the nearest one. -/
def shortest (d : Double) : Digits :=
  if d.mantissa = 0 then ⟨0, 0⟩
  else
    let p := power 2 d.exponent
    dropZeros 20 (search d (firstDigit (d.mantissa * p.1) p.2) 18 0)

/-- Digits with a decimal point, `none` of it being written when nothing follows it. -/
def positional (ds : List Char) (exponent : Int) : List Char × List Char :=
  if 0 ≤ exponent then (ds ++ List.replicate exponent.toNat '0', [])
  else
    let n := (-exponent).toNat
    if n < ds.length then (ds.take (ds.length - n), ds.drop (ds.length - n))
    else (['0'], List.replicate (n - ds.length) '0' ++ ds)

/-- The plain form, without an exponent: `1.5`, `-0.25`, `100`. -/
def plain (d : Double) : List Char :=
  let s := d.shortest
  let (whole, part) := positional (Nat.toDigits 10 s.digits) s.exponent
  (if d.negative then ['-'] else []) ++ whole ++ (if part.isEmpty then [] else '.' :: part)

/-- The form of a number in data: positional between 10^-5 and 10^16, with an exponent and its sign
outside, and with a decimal point or an exponent in every case. -/
def marked (d : Double) : List Char :=
  let s := d.shortest
  let ds := Nat.toDigits 10 s.digits
  let point : Int := s.exponent + ds.length
  let sign := if d.negative then ['-'] else []
  if d.mantissa = 0 then sign ++ ['0', '.', '0']
  else if -5 < point ∧ point ≤ 16 then
    let (whole, part) := positional ds s.exponent
    sign ++ whole ++ '.' :: (if part.isEmpty then ['0'] else part)
  else
    let e := point - 1
    sign ++ ds.take 1 ++ (if ds.length = 1 then [] else '.' :: ds.drop 1) ++
      'e' :: (if e < 0 then '-' else '+') :: Nat.toDigits 10 e.natAbs

end Double

end MediaMonitor
