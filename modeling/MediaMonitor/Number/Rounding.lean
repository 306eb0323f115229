/-!
# Rounding

Quotients rounded to the nearest integer, an exact half to the even one, and integers rounded to the
53 significant bits of a double.  Sums of 64-bit counters that stop at the greatest counter.
-/

namespace MediaMonitor

/-- The integer nearest to `num / den`, an exact half going to the even neighbour. -/
def roundHalfEven (num den : Nat) : Nat :=
  let q := num / den
  let r := num % den
  if 2 * r < den then q
  else if den < 2 * r then q + 1
  else if q % 2 = 0 then q else q + 1

/-- The double nearest to an integer, which is an integer again. -/
def nearestDouble (n : Nat) : Nat :=
  if n < Nat.pow 2 53 then n
  else
    let unit := Nat.pow 2 (n.log2 - 52)
    roundHalfEven n unit * unit

/-- The sum of two counters, or the greatest counter when it does not fit. -/
def saturatingAdd (a b : UInt64) : UInt64 :=
  UInt64.ofNat (min (a.toNat + b.toNat) (UInt64.size - 1))

theorem toNat_saturatingAdd (a b : UInt64) :
    (saturatingAdd a b).toNat = min (a.toNat + b.toNat) (UInt64.size - 1) := by
  unfold saturatingAdd
  rw [UInt64.toNat_ofNat']
  exact Nat.mod_eq_of_lt (by unfold UInt64.size; omega)

example : roundHalfEven 25 10 = 2 ∧ roundHalfEven 35 10 = 4 ∧ roundHalfEven 26 10 = 3 := by decide

end MediaMonitor
