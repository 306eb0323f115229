import Mathlib.Algebra.Order.Group.Nat
import MediaMonitor.Number.Duration
import MediaMonitor.Proofs.Number.Checked

/-!
# Durations in words

A duration is held in two words: its whole seconds in 64 bits, and the nanoseconds that are left in
32 bits (`Duration.words`).  A multiple is computed on the words, with a carry from the nanoseconds
to the seconds.  The product of nanoseconds never overflows, and where the seconds do, the greatest
duration stands: so the words are those of the multiple that `Duration.scale` gives without words
(`Duration.scaleChecked?_words`).
-/

namespace MediaMonitor.Duration

/-- Whole seconds, and nanoseconds. -/
structure Words where
  seconds : UInt64
  nanos : UInt32
  deriving DecidableEq

/-- The words of a duration. -/
def words (d : Duration) : Words :=
  ⟨.ofNat (d.nanos / 1000000000), .ofNat (d.nanos % 1000000000)⟩

namespace Words

/-- The words of the greatest duration. -/
def greatest : Words := ⟨.ofNat (UInt64.size - 1), 999999999⟩

/-- The seconds of a multiple, with the carry of its nanoseconds, if they are a word. -/
def secondsChecked? (w : Words) (factor carry : UInt64) : Option UInt64 := do
  let seconds ← checkedMul w.seconds factor
  checkedAdd seconds carry

/-- A multiple, or the greatest duration when the seconds overflow.  It fails if the product of
nanoseconds does. -/
def scaleChecked? (w : Words) (factor : UInt32) : Option Words := do
  let product ← checkedMul w.nanos.toUInt64 factor.toUInt64
  return match w.secondsChecked? factor.toUInt64 (product / 1000000000) with
  | some seconds => ⟨seconds, (product % 1000000000).toUInt32⟩
  | none => greatest

/-- The lesser of two durations, by the seconds and then by the nanoseconds. -/
def least (v w : Words) : Words :=
  if v.seconds < w.seconds ∨ v.seconds = w.seconds ∧ v.nanos ≤ w.nanos then v else w

section
variable {w : Words} {factor carry : UInt64}

theorem secondsChecked?_of_lt
    (h : w.seconds.toNat * factor.toNat + carry.toNat < UInt64.size) :
    ∃ seconds, w.secondsChecked? factor carry = some seconds ∧
      seconds.toNat = w.seconds.toNat * factor.toNat + carry.toNat := by
  have hmul : w.seconds.toNat * factor.toNat < UInt64.size := (Nat.le_add_right _ _).trans_lt h
  have hproduct := toNat_mul_of_lt hmul
  rw [← hproduct] at h
  refine ⟨w.seconds * factor + carry, ?_, by rw [toNat_add_of_lt h, hproduct]⟩
  rw [secondsChecked?, checkedMul_of_lt hmul, Option.bind_eq_bind, Option.bind_some,
    checkedAdd_of_lt h]

theorem secondsChecked?_of_le
    (h : UInt64.size ≤ w.seconds.toNat * factor.toNat + carry.toNat) :
    w.secondsChecked? factor carry = none := by
  rw [secondsChecked?]
  rcases Nat.lt_or_ge (w.seconds.toNat * factor.toNat) UInt64.size with hmul | hmul
  · rw [← toNat_mul_of_lt hmul] at h
    rw [checkedMul_of_lt hmul, Option.bind_eq_bind, Option.bind_some, checkedAdd_of_le h]
  · rw [checkedMul_of_le hmul]
    rfl

end

end Words

/-! ### The words of a duration -/

theorem toNat_seconds (d : Duration) : d.words.seconds.toNat = d.nanos / 1000000000 :=
  UInt64.toNat_ofNat_of_lt' (Nat.div_lt_of_lt_mul (Nat.mul_comm _ _ ▸ d.bounded))

theorem mod_second_lt (n : Nat) : n % 1000000000 < UInt32.size :=
  (Nat.mod_lt n (by decide : 0 < 1000000000)).trans (by decide)

theorem toNat_nanos (d : Duration) : d.words.nanos.toNat = d.nanos % 1000000000 :=
  UInt32.toNat_ofNat_of_lt' (mod_second_lt d.nanos)

theorem words_eq {w : Words} {d : Duration} (hseconds : w.seconds.toNat = d.nanos / 1000000000)
    (hnanos : w.nanos.toNat = d.nanos % 1000000000) : w = d.words := by
  have hs : w.seconds = d.words.seconds := UInt64.toNat_inj.mp (hseconds.trans d.toNat_seconds.symm)
  have hn : w.nanos = d.words.nanos := UInt32.toNat_inj.mp (hnanos.trans d.toNat_nanos.symm)
  rw [show w = ⟨w.seconds, w.nanos⟩ from rfl, hs, hn]

theorem words_of_greatest {d : Duration} (h : d.nanos = greatest) : d.words = .greatest := by
  rw [words, h]
  rfl

/-- Words are ordered as the durations are. -/
theorem least_words (d e : Duration) : d.words.least e.words = (d.least e).words := by
  have hle : (d.words.seconds < e.words.seconds ∨
      d.words.seconds = e.words.seconds ∧ d.words.nanos ≤ e.words.nanos) ↔ d ≤ e := by
    rw [UInt64.lt_iff_toNat_lt, ← UInt64.toNat_inj, UInt32.le_iff_toNat_le, toNat_seconds,
      toNat_seconds, toNat_nanos, toNat_nanos]
    change _ ↔ d.nanos ≤ e.nanos
    omega
  simp only [Words.least, least, hle]
  split <;> rfl

/-! ### Multiples -/

theorem nanos_scale (d : Duration) (n : Nat) : (d.scale n).nanos = min (d.nanos * n) greatest := rfl

/-- A multiple by seconds and nanoseconds, with the carry between them. -/
theorem mul_carry (n k : Nat) :
    n * k / 1000000000 = n / 1000000000 * k + n % 1000000000 * k / 1000000000 ∧
      n * k % 1000000000 = n % 1000000000 * k % 1000000000 := by
  rw [Nat.div_mod_unique (by decide)]
  refine ⟨?_, Nat.mod_lt _ (by decide)⟩
  have hcarry := Nat.mod_add_div (n % 1000000000 * k) 1000000000
  calc n % 1000000000 * k % 1000000000 +
        1000000000 * (n / 1000000000 * k + n % 1000000000 * k / 1000000000)
      = n % 1000000000 * k + 1000000000 * (n / 1000000000 * k) := by omega
    _ = (n % 1000000000 + 1000000000 * (n / 1000000000)) * k := by
        rw [Nat.add_mul, Nat.mul_assoc]
    _ = n * k := by rw [Nat.mod_add_div]

/-- Nanoseconds times a factor fit in 64 bits. -/
theorem nanos_mul_lt (d : Duration) (factor : UInt32) :
    d.words.nanos.toUInt64.toNat * factor.toUInt64.toNat < UInt64.size := by
  rw [UInt32.toNat_toUInt64, UInt32.toNat_toUInt64]
  exact Nat.mul_lt_mul'' d.words.nanos.toNat_lt factor.toNat_lt

/-- **The words of a multiple.**  No product of nanoseconds overflows, and the words are those of
the multiple, or of the greatest duration. -/
theorem scaleChecked?_words (d : Duration) (factor : UInt32) :
    d.words.scaleChecked? factor = some (d.scale factor.toNat).words := by
  have hfit := d.nanos_mul_lt factor
  have hproduct := toNat_mul_of_lt hfit
  rw [UInt32.toNat_toUInt64, UInt32.toNat_toUInt64, toNat_nanos] at hproduct
  have hcarry : (d.words.nanos.toUInt64 * factor.toUInt64 / 1000000000).toNat =
      d.nanos % 1000000000 * factor.toNat / 1000000000 := by rw [UInt64.toNat_div, hproduct]; rfl
  obtain ⟨hdiv, hmod⟩ := mul_carry d.nanos factor.toNat
  have hseconds : d.words.seconds.toNat * factor.toUInt64.toNat +
      (d.words.nanos.toUInt64 * factor.toUInt64 / 1000000000).toNat =
        d.nanos * factor.toNat / 1000000000 := by
    rw [hcarry, toNat_seconds, UInt32.toNat_toUInt64, hdiv]
  rw [Words.scaleChecked?, checkedMul_of_lt hfit]
  refine congrArg some ?_
  rcases Nat.lt_or_ge (d.nanos * factor.toNat / 1000000000) UInt64.size with hlt | hge
  · have hscale : (d.scale factor.toNat).nanos = d.nanos * factor.toNat := by
      rw [nanos_scale, greatest]
      omega
    obtain ⟨seconds, hsome, htoNat⟩ := Words.secondsChecked?_of_lt (hseconds.trans_lt hlt)
    rw [hsome]
    refine words_eq ?_ ?_
    · rw [htoNat, hseconds, hscale]
    · rw [hscale, hmod, UInt64.toNat_toUInt32, UInt64.toNat_mod, hproduct]
      exact Nat.mod_eq_of_lt (mod_second_lt _)
  · have hscale : (d.scale factor.toNat).nanos = greatest := by
      rw [nanos_scale, greatest]
      omega
    rw [Words.secondsChecked?_of_le (hge.trans_eq hseconds.symm)]
    exact (words_of_greatest hscale).symm

end MediaMonitor.Duration
