/-!
# Hexadecimal digits

The value of a digit to the base sixteen, in either case.
-/

namespace MediaMonitor.Text

/-- The value of a hexadecimal digit. -/
def hexValue? (c : Char) : Option Nat :=
  if c.isDigit then some (c.toNat - 0x30)
  else if 'a' ≤ c ∧ c ≤ 'f' then some (c.toNat - 0x57)
  else if 'A' ≤ c ∧ c ≤ 'F' then some (c.toNat - 0x37)
  else none

/-- A digit is read as what it was written for. -/
theorem hexValue?_digitChar : ∀ d < 16, hexValue? (Nat.digitChar d) = some d := by
  decide

example : hexValue? '7' = some 7 ∧ hexValue? 'f' = some 15 ∧ hexValue? 'F' = some 15 ∧
    hexValue? 'g' = none := by decide

end MediaMonitor.Text
