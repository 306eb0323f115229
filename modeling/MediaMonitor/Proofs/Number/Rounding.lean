import Mathlib.Algebra.Order.Group.Nat
import MediaMonitor.Number.Rounding

/-!
# Rounding keeps the order

A rounded quotient is at most half a unit away from the exact one (`roundHalfEven_mul_le`,
`le_roundHalfEven_mul`), whole quotients stay as they are, and a greater numerator is not rounded to
less (`roundHalfEven_mono`).  The same holds of the double nearest to an integer: it lies within the
powers of two around the integer, so that the change of the unit at a power of two does not disturb
the order (`nearestDouble_mono`), and an integer of at most 64 bits is at most 1024 away from its
double (`nearestDouble_le`, `le_nearestDouble`).
-/

namespace MediaMonitor

/-! ### Quotients -/

section
variable {num den : Nat}

/-- Twice the rounded quotient, as a number of `den`, exceeds twice the exact one by one at most. -/
theorem roundHalfEven_mul_le (num den : Nat) :
    2 * (roundHalfEven num den * den) ≤ 2 * num + den := by
  have hdiv := Nat.div_add_mod' num den
  simp only [roundHalfEven]
  split_ifs <;> simp only [Nat.succ_mul] <;> omega

/-- Twice the exact quotient exceeds twice the rounded one, as a number of `den`, by one at most. -/
theorem le_roundHalfEven_mul (hden : 0 < den) (num : Nat) :
    2 * num ≤ 2 * (roundHalfEven num den * den) + den := by
  have hdiv := Nat.div_add_mod' num den
  have hmod := Nat.mod_lt num hden
  simp only [roundHalfEven]
  split_ifs <;> simp only [Nat.succ_mul] <;> omega

theorem div_le_roundHalfEven (num den : Nat) : num / den ≤ roundHalfEven num den := by
  simp only [roundHalfEven]
  split_ifs <;> omega

theorem roundHalfEven_le_div_succ (num den : Nat) : roundHalfEven num den ≤ num / den + 1 := by
  simp only [roundHalfEven]
  split_ifs <;> omega

/-- **A greater numerator is not rounded to less.** -/
theorem roundHalfEven_mono (den : Nat) {m n : Nat} (h : m ≤ n) :
    roundHalfEven m den ≤ roundHalfEven n den := by
  rcases Nat.lt_or_eq_of_le (Nat.div_le_div_right (c := den) h) with hlt | heq
  · exact (roundHalfEven_le_div_succ m den).trans (hlt.trans_le (div_le_roundHalfEven n den))
  · -- with one quotient, the remainders are in the order of the numerators
    have hm := Nat.div_add_mod' m den
    have hn := Nat.div_add_mod' n den
    rw [heq] at hm
    simp only [roundHalfEven, heq]
    split_ifs <;> omega

theorem roundHalfEven_mul (hden : 0 < den) (q : Nat) : roundHalfEven (q * den) den = q := by
  rw [roundHalfEven, Nat.mul_mod_left, Nat.mul_div_cancel q hden]
  exact if_pos (by omega)

theorem le_roundHalfEven {q : Nat} (hden : 0 < den) (h : q * den ≤ num) :
    q ≤ roundHalfEven num den := by
  have hmono := roundHalfEven_mono den h
  rwa [roundHalfEven_mul hden] at hmono

theorem roundHalfEven_le {q : Nat} (hden : 0 < den) (h : num ≤ q * den) :
    roundHalfEven num den ≤ q := by
  have hmono := roundHalfEven_mono den h
  rwa [roundHalfEven_mul hden] at hmono

/-- An even number is reached from half a unit below it on: an exact half goes up there. -/
theorem le_roundHalfEven_iff {q : Nat} (hden : 0 < den) (heven : q % 2 = 0) :
    q ≤ roundHalfEven num den ↔ 2 * (q * den) ≤ 2 * num + den := by
  refine ⟨fun hle => ?_, fun hle => ?_⟩
  · have hround := roundHalfEven_mul_le num den
    have hmul := Nat.mul_le_mul_right den hle
    omega
  · have hdiv := Nat.div_add_mod' num den
    have hmod := Nat.mod_lt num hden
    rcases Nat.lt_or_ge (num / den) q with hlt | hge
    · -- the quotient is the number before, and the remainder is half a unit at least
      have hnext : q = num / den + 1 := by
        refine Nat.le_antisymm (Nat.le_of_not_lt fun hless => ?_) hlt
        have hmul := Nat.mul_le_mul_right den hless
        rw [Nat.succ_mul, Nat.add_mul, Nat.one_mul] at hmul
        omega
      rw [hnext, Nat.succ_mul (num / den)] at hle
      simp only [roundHalfEven]
      split_ifs <;> omega
    · exact hge.trans (div_le_roundHalfEven num den)

end

/-! ### Doubles -/

/-- The unit that an integer is rounded to. -/
def doubleUnit (n : Nat) : Nat := 2 ^ (n.log2 - 52)

section
variable {m n : Nat}

theorem doubleUnit_pos (n : Nat) : 0 < doubleUnit n := Nat.two_pow_pos _

theorem nearestDouble_of_lt (h : n < 2 ^ 53) : nearestDouble n = n := if_pos h

theorem nearestDouble_of_le (h : 2 ^ 53 ≤ n) :
    nearestDouble n = roundHalfEven n (doubleUnit n) * doubleUnit n := if_neg (Nat.not_lt.mpr h)

theorem le_log2 (h : 2 ^ 53 ≤ n) : 53 ≤ n.log2 := (Nat.le_log2 (by omega)).mpr h

/-- A power of two that is as great as the number's own is a number of its units. -/
theorem mul_doubleUnit (hn : 2 ^ 53 ≤ n) {k : Nat} (hk : n.log2 ≤ k) :
    2 ^ (k - (n.log2 - 52)) * doubleUnit n = 2 ^ k := by
  have hlog := le_log2 hn
  rw [doubleUnit, ← Nat.pow_add, Nat.sub_add_cancel (by omega)]

/-- A double lies within the powers of two around its integer. -/
theorem nearestDouble_bounds (h : 2 ^ 53 ≤ n) :
    2 ^ n.log2 ≤ nearestDouble n ∧ nearestDouble n ≤ 2 ^ (n.log2 + 1) := by
  have hne : n ≠ 0 := by omega
  have hlow := mul_doubleUnit h (Nat.le_refl _)
  have hhigh := mul_doubleUnit h (Nat.le_succ n.log2)
  rw [nearestDouble_of_le h, ← hlow, ← hhigh]
  refine ⟨Nat.mul_le_mul_right _ (le_roundHalfEven (doubleUnit_pos n) ?_),
    Nat.mul_le_mul_right _ (roundHalfEven_le (doubleUnit_pos n) ?_)⟩
  · rw [hlow]
    exact Nat.log2_self_le hne
  · rw [hhigh]
    exact Nat.lt_log2_self.le

/-- **A greater integer has no lesser double.** -/
theorem nearestDouble_mono (h : m ≤ n) : nearestDouble m ≤ nearestDouble n := by
  by_cases hn : n < 2 ^ 53
  · rwa [nearestDouble_of_lt hn, nearestDouble_of_lt (h.trans_lt hn)]
  have hn := Nat.not_lt.mp hn
  obtain ⟨hlow, -⟩ := nearestDouble_bounds hn
  by_cases hm : m < 2 ^ 53
  · rw [nearestDouble_of_lt hm]
    have hpow : 2 ^ 53 ≤ 2 ^ n.log2 := Nat.pow_le_pow_right (by decide) (le_log2 hn)
    exact hm.le.trans (hpow.trans hlow)
  have hm := Nat.not_lt.mp hm
  rcases Nat.lt_or_ge m.log2 n.log2 with hlt | hge
  · -- a power of two lies between the two doubles
    obtain ⟨-, hhigh⟩ := nearestDouble_bounds hm
    exact hhigh.trans ((Nat.pow_le_pow_right (by decide) hlt).trans hlow)
  · have hlog : m.log2 = n.log2 := by
      refine Nat.le_antisymm ?_ hge
      exact (Nat.le_log2 (by omega)).mpr ((Nat.log2_self_le (by omega)).trans h)
    have hunit : doubleUnit m = doubleUnit n := by rw [doubleUnit, doubleUnit, hlog]
    rw [nearestDouble_of_le hm, nearestDouble_of_le hn, hunit]
    exact Nat.mul_le_mul_right _ (roundHalfEven_mono _ h)

/-- The unit of an integer of at most 64 bits. -/
theorem doubleUnit_le (hn : n < 2 ^ 64) : doubleUnit n ≤ 2048 := by
  by_cases hzero : n = 0
  · subst hzero
    decide
  have hlog : n.log2 < 64 := (Nat.log2_lt hzero).mpr hn
  exact Nat.pow_le_pow_right (by decide) (show n.log2 - 52 ≤ 11 by omega)

theorem nearestDouble_le (hn : n < 2 ^ 64) : nearestDouble n ≤ n + 1024 := by
  by_cases h : n < 2 ^ 53
  · rw [nearestDouble_of_lt h]
    omega
  have hround := roundHalfEven_mul_le n (doubleUnit n)
  have hunit := doubleUnit_le hn
  rw [nearestDouble_of_le (Nat.not_lt.mp h)]
  omega

theorem le_nearestDouble (hn : n < 2 ^ 64) : n ≤ nearestDouble n + 1024 := by
  by_cases h : n < 2 ^ 53
  · rw [nearestDouble_of_lt h]
    omega
  have hround := le_roundHalfEven_mul (doubleUnit_pos n) n
  have hunit := doubleUnit_le hn
  rw [nearestDouble_of_le (Nat.not_lt.mp h)]
  omega

end

end MediaMonitor
