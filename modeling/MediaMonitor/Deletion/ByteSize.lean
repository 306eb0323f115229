import MediaMonitor.Number.Rounding
import MediaMonitor.Text.Integer

/-!
# Byte sizes

A number of bytes in binary units, with at most one decimal: `1.5 GB`.  The number of bytes is first
rounded to a double; the unit is the greatest that leaves at least 1, and then one decimal is kept,
an exact half going to the even digit.
-/

namespace MediaMonitor.ByteSize

/-- The units above the byte. -/
def units : List String := ["KB", "MB", "GB", "TB", "PB"]

/-- The power of 1024 that fits a number: at most `most`, and less as long as it exceeds it. -/
def exponent (n : Nat) : Nat → Nat
  | 0 => 0
  | most + 1 => if Nat.pow 1024 (most + 1) ≤ n then most + 1 else exponent n most

/-- The tenths of a unit of 1024 ^ `k` bytes that are shown for a number of bytes. -/
def tenths (n k : Nat) : Nat := roundHalfEven (10 * n) (Nat.pow 1024 k)

/-- A number of tenths, without a decimal when it is whole. -/
def writeTenths (t : Nat) : List Char :=
  if t % 10 = 0 then Text.natDigits (t / 10)
  else Text.natDigits (t / 10) ++ '.' :: Text.natDigits (t % 10)

/-- The size as a text. -/
def format (bytes : UInt64) : String :=
  if bytes.toNat < 1024 then Text.ofNat bytes.toNat ++ " B"
  else
    let n := nearestDouble bytes.toNat
    let k := exponent n 5
    String.ofList (writeTenths (tenths n k)) ++ " " ++ units.getD (k - 1) "B"

example : format 1023 = "1023 B" ∧ format 1536 = "1.5 KB" ∧ format 1048575 = "1024 KB" := by
  decide +kernel

end MediaMonitor.ByteSize
