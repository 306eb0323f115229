import Mathlib.Algebra.Ring.Nat
import MediaMonitor.Number.Checked

/-!
# Checked arithmetic

Sums, differences and products of counters that fail when they leave the counters.  A computation
that comes to the same with them as without never overflows.  A checked sum of many counters is as
good as one that is checked at its end: no step fails unless the whole sum is no counter
(`checkedSum_eq_some_iff`).
-/

namespace MediaMonitor

/-- The difference of two counters, if it is a counter. -/
def checkedSub (a b : UInt64) : Option UInt64 := if b ≤ a then some (a - b) else none

/-- The product of two counters, if it is a counter. -/
def checkedMul (a b : UInt64) : Option UInt64 :=
  if a.toNat * b.toNat < UInt64.size then some (a * b) else none

section
variable {a b : UInt64}

theorem checkedAdd_of_lt (h : a.toNat + b.toNat < UInt64.size) : checkedAdd a b = some (a + b) :=
  if_pos h

theorem checkedAdd_of_le (h : UInt64.size ≤ a.toNat + b.toNat) : checkedAdd a b = none :=
  if_neg (Nat.not_lt.mpr h)

theorem checkedSub_of_le (h : b ≤ a) : checkedSub a b = some (a - b) := if_pos h

theorem checkedMul_of_lt (h : a.toNat * b.toNat < UInt64.size) : checkedMul a b = some (a * b) :=
  if_pos h

theorem checkedMul_of_le (h : UInt64.size ≤ a.toNat * b.toNat) : checkedMul a b = none :=
  if_neg (Nat.not_lt.mpr h)

theorem toNat_mul_of_lt (h : a.toNat * b.toNat < UInt64.size) :
    (a * b).toNat = a.toNat * b.toNat := by
  rw [UInt64.toNat_mul]
  exact Nat.mod_eq_of_lt h

theorem toNat_add_of_lt (h : a.toNat + b.toNat < UInt64.size) :
    (a + b).toNat = a.toNat + b.toNat := by
  rw [UInt64.toNat_add]
  exact Nat.mod_eq_of_lt h

end

/-! ### Sums of lists -/

section
variable {l : List UInt64} {n : UInt64}

/-- Added to a counter step by step, a list gives the exact sum or nothing. -/
theorem foldlM_checkedAdd_eq_some_iff {start : UInt64} :
    l.foldlM checkedAdd start = some n ↔ n.toNat = start.toNat + (l.map (·.toNat)).sum := by
  induction l generalizing start with
  | nil => exact Option.some_inj.trans (UInt64.toNat_inj.symm.trans eq_comm)
  | cons a rest ih =>
      rw [List.foldlM_cons, List.map_cons, List.sum_cons, ← Nat.add_assoc]
      rcases Nat.lt_or_ge (start.toNat + a.toNat) UInt64.size with hlt | hge
      · rw [checkedAdd_of_lt hlt, ← toNat_add_of_lt hlt]
        exact ih
      · rw [checkedAdd_of_le hge]
        have hcounter := n.toNat_lt_size
        exact iff_of_false nofun (by omega)

theorem checkedSum_eq_some_iff : checkedSum l = some n ↔ n.toNat = (l.map (·.toNat)).sum := by
  rw [checkedSum, foldlM_checkedAdd_eq_some_iff, UInt64.toNat_zero, Nat.zero_add]

/-- A sum fails if and only if it is no counter. -/
theorem checkedSum_eq_none_iff :
    checkedSum l = none ↔ UInt64.size ≤ (l.map (·.toNat)).sum := by
  cases hsum : checkedSum l with
  | some n =>
      rw [← checkedSum_eq_some_iff.mp hsum]
      exact iff_of_false nofun (Nat.not_le.mpr n.toNat_lt_size)
  | none =>
      refine iff_of_true rfl (Nat.le_of_not_lt fun hlt => ?_)
      have hsome := checkedSum_eq_some_iff.mpr (UInt64.toNat_ofNat_of_lt' hlt)
      rw [hsum] at hsome
      cases hsome

end

end MediaMonitor
