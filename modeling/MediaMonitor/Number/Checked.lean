/-!
# Checked sums

Counters are added up one after another; the sum fails where a step leaves the counters.
-/

namespace MediaMonitor

/-- The sum of two counters, if it is a counter. -/
def checkedAdd (a b : UInt64) : Option UInt64 :=
  if a.toNat + b.toNat < UInt64.size then some (a + b) else none

/-- The sum of counters, if every step to it is a counter. -/
def checkedSum (l : List UInt64) : Option UInt64 := l.foldlM checkedAdd 0

end MediaMonitor
