import MediaMonitor.Http.Retry
import MediaMonitor.Proofs.Number.Duration

/-!
# Delays before retries

A delay that doubles with each attempt is computed in words, which no step overflows
(`RetryPolicy.delayChecked?_eq`).  It never exceeds the greatest delay and never gets shorter with a
further attempt, and it is exact as long as the factor is a number of 32 bits
(`RetryPolicy.delayFor_doubling`).  That a product stops at the greatest duration does not show: the
greatest delay is no longer than that.
-/

namespace MediaMonitor.Http.RetryPolicy

variable {p : RetryPolicy} {attempt m n : UInt32}

/-! ### The factor -/

theorem factor_of_le (h : attempt.toNat ≤ 32) : factor attempt = 2 ^ (attempt.toNat - 1) :=
  if_pos (by omega)

theorem factor_of_lt (h : 32 < attempt.toNat) : factor attempt = UInt32.size - 1 :=
  if_neg (by omega)

theorem factor_lt (attempt : UInt32) : factor attempt < UInt32.size := by
  rcases Nat.lt_or_ge 32 attempt.toNat with hlt | hle
  · rw [factor_of_lt hlt]
    decide
  · rw [factor_of_le hle]
    exact Nat.pow_lt_pow_right (by decide) (by omega : attempt.toNat - 1 < 32)

/-- A later attempt has no lesser factor. -/
theorem factor_mono (h : m ≤ n) : factor m ≤ factor n := by
  have hle : m.toNat ≤ n.toNat := UInt32.le_iff_toNat_le.mp h
  rcases Nat.lt_or_ge 32 n.toNat with hlt | hn
  · rw [factor_of_lt hlt]
    exact Nat.le_sub_one_of_lt (factor_lt m)
  · rw [factor_of_le hn, factor_of_le (hle.trans hn)]
    exact Nat.pow_le_pow_right (by decide) (by omega)

/-! ### The delay -/

theorem nanos_least (d e : Duration) : (d.least e).nanos = min d.nanos e.nanos := by
  rw [Duration.least]
  split
  case isTrue h => exact (Nat.min_eq_left h).symm
  case isFalse h => exact (Nat.min_eq_right (Nat.le_of_not_le h)).symm

theorem le_greatest (d : Duration) : d.nanos ≤ Duration.greatest := Nat.le_sub_one_of_lt d.bounded

/-- A product that stops at the greatest duration is not less than the greatest delay. -/
theorem nanos_delayFor (hp : p.exponential = true) (attempt : UInt32) :
    (p.delayFor attempt).nanos = min (p.baseDelay.nanos * factor attempt) p.maxDelay.nanos := by
  have hmax := le_greatest p.maxDelay
  rw [delayFor, if_pos hp, nanos_least, Duration.nanos_scale]
  omega

/-- The delay in words, of which no step may overflow but for the product by the factor, which
stops at the greatest duration. -/
def delayChecked? (p : RetryPolicy) (attempt : UInt32) : Option Duration.Words :=
  if p.exponential then do
    let scaled ← p.baseDelay.words.scaleChecked? (.ofNat (factor attempt))
    return scaled.least p.maxDelay.words
  else some p.baseDelay.words

/-- No step overflows. -/
theorem delayChecked?_eq (p : RetryPolicy) (attempt : UInt32) :
    p.delayChecked? attempt = some (p.delayFor attempt).words := by
  rw [delayChecked?, delayFor]
  split
  case isTrue =>
    rw [Duration.scaleChecked?_words, UInt32.toNat_ofNat_of_lt' (factor_lt attempt),
      Option.bind_eq_bind, Option.bind_some, Duration.least_words]
    rfl
  case isFalse => rfl

/-- **A doubling delay.**  No step of its computation overflows; it is at most the greatest delay,
and no shorter before a later attempt; before the first 32 attempts it is the base delay doubled
with each of them, or the greatest delay if that is less; and an attempt of number 0 waits as the
first one does. -/
theorem delayFor_doubling (p : RetryPolicy) (hp : p.exponential = true) :
    (∀ attempt, p.delayChecked? attempt = some (p.delayFor attempt).words) ∧
      (∀ attempt, p.delayFor attempt ≤ p.maxDelay) ∧
      (∀ m n, m ≤ n → p.delayFor m ≤ p.delayFor n) ∧
      (∀ attempt, 1 ≤ attempt → attempt ≤ 32 → (p.delayFor attempt).nanos =
        min (p.baseDelay.nanos * 2 ^ (attempt.toNat - 1)) p.maxDelay.nanos) ∧
      p.delayFor 0 = p.delayFor 1 := by
  refine ⟨p.delayChecked?_eq, fun attempt => ?_, fun m n h => ?_, fun attempt _ hle => ?_, rfl⟩
  · change (p.delayFor attempt).nanos ≤ p.maxDelay.nanos
    rw [nanos_delayFor hp]
    exact Nat.min_le_right _ _
  · change (p.delayFor m).nanos ≤ (p.delayFor n).nanos
    have hfactor := Nat.mul_le_mul_left p.baseDelay.nanos (factor_mono h)
    rw [nanos_delayFor hp, nanos_delayFor hp]
    omega
  · rw [nanos_delayFor hp, factor_of_le (UInt32.le_iff_toNat_le.mp hle)]

/-- A delay five seconds short of the longest: its factor is the greatest one, and the carry of the
nanoseconds just fits in with the seconds. -/
theorem delayFor_near_greatest :
    let p : RetryPolicy := {
      baseDelay := .ofNanos 4294967296999999999
      maxDelay := .ofNanos Duration.greatest }
    p.exponential = true ∧ p.delayChecked? 33 = some (p.delayFor 33).words ∧
      (p.delayFor 33).words = ⟨18446744073709551610, 705032705⟩ ∧
      p.delayFor 33 ≤ p.maxDelay ∧ p.delayFor 32 ≤ p.delayFor 33 ∧
      (p.delayFor 32).nanos = min (p.baseDelay.nanos * 2 ^ 31) p.maxDelay.nanos ∧
      p.delayFor 0 = p.delayFor 1 := by
  intro p
  obtain ⟨hwords, hmax, hmono, hexact, hzero⟩ := delayFor_doubling p rfl
  exact ⟨rfl, hwords 33, by decide, hmax 33, hmono 32 33 (by decide),
    hexact 32 (by decide) (by decide), hzero⟩

end MediaMonitor.Http.RetryPolicy
