import MediaMonitor.Text.Integer

/-!
# Durations

A span of time in whole nanoseconds, below 2^64 seconds.  Products stop at the greatest duration.
-/

namespace MediaMonitor

/-- A span of time in nanoseconds. -/
structure Duration where
  nanos : Nat
  bounded : nanos < UInt64.size * 1000000000
  deriving DecidableEq, Repr

namespace Duration

/-- The greatest number of nanoseconds. -/
def greatest : Nat := UInt64.size * 1000000000 - 1

/-- So many nanoseconds, or the greatest duration. -/
def ofNanos (n : Nat) : Duration := ⟨min n greatest, by unfold greatest UInt64.size; omega⟩

/-- So many milliseconds. -/
def ofMillis (n : UInt64) : Duration := ofNanos (n.toNat * 1000000)

/-- So many seconds. -/
def ofSeconds (n : UInt64) : Duration := ofNanos (n.toNat * 1000000000)

instance : Inhabited Duration := ⟨ofNanos 0⟩

/-- The whole milliseconds of a duration. -/
def millis (d : Duration) : Nat := d.nanos / 1000000

instance : LE Duration := ⟨fun a b => a.nanos ≤ b.nanos⟩
instance (a b : Duration) : Decidable (a ≤ b) := inferInstanceAs (Decidable (a.nanos ≤ b.nanos))

/-- The lesser of two durations. -/
def least (a b : Duration) : Duration := if a ≤ b then a else b

/-- A multiple of a duration, or the greatest duration. -/
def scale (d : Duration) (factor : Nat) : Duration := ofNanos (d.nanos * factor)

/-- A number with so many decimals behind its point, without trailing zeros. -/
def decimals (whole part width : Nat) : List Char :=
  let ds := Text.natDigits part
  let padded := List.replicate (width - ds.length) '0' ++ ds
  let kept := (padded.reverse.dropWhile (· = '0')).reverse
  Text.natDigits whole ++ (if kept = [] then [] else '.' :: kept)

/-- The duration in the greatest unit that leaves at least one: `1.5s`, `250ms`. -/
def text (d : Duration) : String :=
  String.ofList (
    if 1000000000 ≤ d.nanos then
      decimals (d.nanos / 1000000000) (d.nanos % 1000000000) 9 ++ ['s']
    else if 1000000 ≤ d.nanos then
      decimals (d.nanos / 1000000) (d.nanos % 1000000) 6 ++ ['m', 's']
    else if 1000 ≤ d.nanos then decimals (d.nanos / 1000) (d.nanos % 1000) 3 ++ ['µ', 's']
    else Text.natDigits d.nanos ++ ['n', 's'])

example : (ofMillis 1500).text = "1.5s" ∧ (ofMillis 250).text = "250ms" ∧
    (ofMillis 0).text = "0ns" := by
  decide +kernel

end Duration

end MediaMonitor
