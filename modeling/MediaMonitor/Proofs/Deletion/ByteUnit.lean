import MediaMonitor.Proofs.Deletion.ByteSize

/-!
# The unit of a byte size

The unit is chosen before the number is rounded to one decimal.  A number from 1023.95 on is
therefore shown as 1024 of its unit, though the next unit has the same quantity as 1
(`ByteSize.RoundsUp`); all others are below 1024, and at least 1 above the byte.  Two texts of one
quantity differ if and only if just one of them was rounded up in this way
(`ByteSize.number_of_unit`).
-/

namespace MediaMonitor.ByteSize

open Text

/-- The number of bytes falls short of the next unit, by a twentieth of its own unit at most. -/
def RoundsUp (bytes : UInt64) : Prop :=
  ∃ k < 5, 20479 * 1024 ^ k ≤ 20 * bytes.toNat ∧ bytes.toNat < 1024 ^ (k + 1)

section
variable {b c : UInt64}

/-! ### The power of the unit -/

theorem exponent_eq {n k most : Nat} (hk : k < most) (hle : 1024 ^ k ≤ n)
    (hlt : n < 1024 ^ (k + 1)) : exponent n most = k := by
  have hpos : 0 < n := (Nat.pow_pos (by decide)).trans_le hle
  have hbase : 1 < 1024 := by decide
  have hlow := (Nat.pow_lt_pow_iff_right hbase).mp ((pow_exponent_le hpos most).trans_lt hlt)
  have hless : exponent n most < most := (Nat.lt_succ_iff.mp hlow).trans_lt hk
  have hhigh := (Nat.pow_lt_pow_iff_right hbase).mp (hle.trans_lt (lt_pow_exponent hless))
  omega

theorem rounded_pos_of_power (h : power b ≠ 0) : 0 < rounded b := by
  refine Nat.pos_of_ne_zero fun hzero => h ?_
  rw [power, hzero]
  decide

/-- Below the greatest unit a number of bytes is a double. -/
theorem rounded_of_power (h : power b < 5) : rounded b = b.toNat := by
  refine rounded_of_lt (Nat.not_le.mp fun hle => ?_)
  have hmono := nearestDouble_mono hle
  rw [nearestDouble_of_le (Nat.le_refl _)] at hmono
  have hlt : rounded b < 1024 ^ (power b + 1) := lt_pow_exponent h
  have hpow : 1024 ^ (power b + 1) ≤ 1024 ^ 5 := Nat.pow_le_pow_right (by decide) h
  have hdouble : roundHalfEven (2 ^ 53) (doubleUnit (2 ^ 53)) * doubleUnit (2 ^ 53) = 2 ^ 53 := by
    decide
  rw [hdouble] at hmono
  exact absurd (hmono.trans_lt (hlt.trans_le hpow)) (by decide)

/-! ### The tenths of the unit -/

/-- Above the byte, at least one of the unit is shown. -/
theorem ten_le_shownTenths (h : power b ≠ 0) : 10 ≤ shownTenths b :=
  le_roundHalfEven (Nat.pow_pos (by decide))
    (Nat.mul_le_mul_left 10 (pow_exponent_le (rounded_pos_of_power h) 5))

/-- Below the greatest unit, no more than 1024 of the unit are shown. -/
theorem shownTenths_le (h : power b < 5) : shownTenths b ≤ 10240 := by
  refine roundHalfEven_le (Nat.pow_pos (by decide)) ?_
  have hlt : rounded b < 1024 ^ (power b + 1) := lt_pow_exponent h
  change 10 * rounded b ≤ 10240 * 1024 ^ power b
  rw [Nat.pow_succ] at hlt
  omega

/-- 1024 of a unit are shown from 1023.95 on. -/
theorem shownTenths_eq_iff (h : power b < 5) :
    shownTenths b = 10240 ↔ 20479 * 1024 ^ power b ≤ 20 * b.toNat := by
  have hround : 10240 ≤ shownTenths b ↔
      2 * (10240 * 1024 ^ power b) ≤ 2 * (10 * rounded b) + 1024 ^ power b :=
    le_roundHalfEven_iff (Nat.pow_pos (by decide)) rfl
  have hle := shownTenths_le h
  rw [rounded_of_power h] at hround
  omega

/-- The numbers that are shown as 1024 of a unit below the greatest. -/
theorem roundsUp_iff : RoundsUp b ↔ power b < 5 ∧ shownTenths b = 10240 := by
  constructor
  · rintro ⟨k, hk, hle, hlt⟩
    have hunit : 1024 ^ k ≤ b.toNat := by omega
    have hbound : 1024 ^ (k + 1) ≤ 1024 ^ 5 := Nat.pow_le_pow_right (by decide) hk
    have hexact : rounded b = b.toNat :=
      rounded_of_lt (hlt.trans_le (hbound.trans (by decide)))
    have hpower : power b = k := by
      rw [power, hexact]
      exact exponent_eq hk hunit hlt
    refine ⟨hpower ▸ hk, (shownTenths_eq_iff (hpower ▸ hk)).mpr ?_⟩
    rwa [hpower]
  · rintro ⟨hpower, htenths⟩
    refine ⟨power b, hpower, (shownTenths_eq_iff hpower).mp htenths, ?_⟩
    rw [← rounded_of_power hpower]
    exact lt_pow_exponent hpower

/-! ### Texts of one quantity -/

/-- A text is made of the tenths and the power. -/
theorem format_eq_iff :
    format b = format c ↔ shownTenths b = shownTenths c ∧ power b = power c := by
  refine ⟨fun h => ?_, fun ⟨htenths, hpower⟩ => by rw [format_eq, format_eq, htenths, hpower]⟩
  have hread := congrArg read? h
  rw [read?_eq, read?_eq, Option.some.injEq, Prod.mk.injEq] at hread
  obtain ⟨htenths, hpower⟩ := hread
  refine ⟨?_, Nat.pow_right_injective (by decide : 2 ≤ 1024) hpower⟩
  have hcast : (shownTenths b : ℚ) = shownTenths c := by linarith
  exact_mod_cast hcast

/-- One quantity in two units: the text with the lesser unit was rounded up, and only that one. -/
theorem roundsUp_of_power_lt (h : power b < power c)
    (hquantity : shownTenths b * 1024 ^ power b = shownTenths c * 1024 ^ power c) :
    RoundsUp b ∧ ¬ RoundsUp c := by
  have hb : power b < 5 := h.trans_le (power_le c)
  have hpos : 0 < 1024 ^ power b := Nat.pow_pos (by decide)
  have hnext : 1024 * 1024 ^ power b ≤ 1024 ^ power c := by
    rw [Nat.mul_comm, ← Nat.pow_succ]
    exact Nat.pow_le_pow_right (by decide) h
  have hmost := Nat.mul_le_mul_right (1024 ^ power b) (shownTenths_le hb)
  have hleast := Nat.mul_le_mul_right (1024 ^ power c) (ten_le_shownTenths (Nat.ne_zero_of_lt h))
  constructor
  · refine roundsUp_iff.mpr ⟨hb, (shownTenths_le hb).antisymm ?_⟩
    refine Nat.le_of_mul_le_mul_right ?_ hpos
    omega
  · intro hup
    obtain ⟨-, htenths⟩ := roundsUp_iff.mp hup
    rw [htenths] at hquantity
    omega

/-- In one unit, texts of one quantity are one text. -/
theorem format_eq_of_power_eq (h : power b = power c)
    (hquantity : shownTenths b * 1024 ^ power b = shownTenths c * 1024 ^ power c) :
    format b = format c := by
  rw [h] at hquantity
  exact format_eq_iff.mpr ⟨Nat.eq_of_mul_eq_mul_right (Nat.pow_pos (by decide)) hquantity, h⟩

/-- Numbers of bytes with one text are rounded in the same way. -/
theorem roundsUp_congr (h : format b = format c) : RoundsUp b ↔ RoundsUp c := by
  obtain ⟨htenths, hpower⟩ := format_eq_iff.mp h
  rw [roundsUp_iff, roundsUp_iff, htenths, hpower]

/-- **Texts of one quantity** are one text, unless just one of the numbers was rounded up to 1024 of
its unit. -/
theorem format_eq_iff_of_quantity
    (hquantity : shownTenths b * 1024 ^ power b = shownTenths c * 1024 ^ power c) :
    format b = format c ↔ (RoundsUp b ↔ RoundsUp c) := by
  refine ⟨roundsUp_congr, fun hup => ?_⟩
  rcases Nat.lt_trichotomy (power b) (power c) with hlt | heq | hgt
  · obtain ⟨hb, hc⟩ := roundsUp_of_power_lt hlt hquantity
    exact absurd (hup.mp hb) hc
  · exact format_eq_of_power_eq heq hquantity
  · obtain ⟨hc, hb⟩ := roundsUp_of_power_lt hgt hquantity.symm
    exact absurd (hup.mpr hc) hb

end

/-- **The number fits its unit** but for the numbers of bytes that round up: a size is read as a
number of units of 1, 1024, ... or 1024⁵ bytes.  The number is at least 1 unless the unit is the
byte; it is below 1024 or the unit is the greatest, if and only if the number of bytes does not
round up, and 1024 of a lesser unit otherwise.  Two texts that are read as one quantity are equal if
and only if both numbers of bytes round up or neither does. -/
theorem number_of_unit (b : UInt64) :
    ∃ (x : ℚ) (u : Nat), read? (format b) = some (x, u) ∧ (∃ k ≤ 5, u = 1024 ^ k) ∧
      (u ≠ 1 → 1 ≤ x) ∧ (x < 1024 ∨ u = 1024 ^ 5 ↔ ¬ RoundsUp b) ∧
      (RoundsUp b → x = 1024 ∧ u ≠ 1024 ^ 5) ∧
      ∀ (c : UInt64) (y : ℚ) (v : Nat), read? (format c) = some (y, v) → x * u = y * v →
        (format b = format c ↔ (RoundsUp b ↔ RoundsUp c)) := by
  have hpower : 1024 ^ power b = 1024 ^ 5 ↔ power b = 5 :=
    ⟨fun h => Nat.pow_right_injective (by decide : 2 ≤ 1024) h, fun h => by rw [h]⟩
  refine ⟨_, _, read?_eq b, ⟨power b, power_le b, rfl⟩, fun hunit => ?_, ?_, fun hup => ?_, ?_⟩
  · have hten : (10 : ℚ) ≤ shownTenths b := by
      exact_mod_cast ten_le_shownTenths fun hzero => hunit (by rw [hzero]; rfl)
    linarith
  · have hlt : (shownTenths b : ℚ) / 10 < 1024 ↔ shownTenths b < 10240 := by
      rw [div_lt_iff₀ (by norm_num)]
      norm_num
    have hle : power b < 5 → shownTenths b ≤ 10240 := shownTenths_le
    have hgreatest := power_le b
    rw [roundsUp_iff, hpower, hlt]
    omega
  · obtain ⟨hlt, htenths⟩ := roundsUp_iff.mp hup
    rw [htenths]
    exact ⟨by norm_num, fun h => hlt.ne (hpower.mp h)⟩
  · intro c y v hread hquantity
    rw [read?_eq c] at hread
    cases hread
    refine format_eq_iff_of_quantity ?_
    have hten : (shownTenths b : ℚ) * (1024 ^ power b : Nat) =
        shownTenths c * (1024 ^ power c : Nat) := by linarith
    exact_mod_cast hten

theorem read?_of_shown {t k : Nat} {b : UInt64} (htenths : shownTenths b = t)
    (hpower : power b = k) : read? (format b) = some ((t : ℚ) / 10, 1024 ^ k) := by
  rw [read?_eq, htenths, hpower]

/-- Rounding up begins at 1023.95 kilobytes: one byte less is shown as 1023.9, and what is rounded
up has the quantity of a megabyte, but another text. -/
theorem number_of_unit_at_limit :
    read? (format 1048524) = some (1023.9, 1024) ∧ ¬ RoundsUp 1048524 ∧
      read? (format 1048525) = some (1024, 1024) ∧ RoundsUp 1048525 ∧
      read? (format 1048576) = some (1, 1048576) ∧ (1024 : ℚ) * (1024 : Nat) = 1 * (1048576 : Nat) ∧
      format 1048525 ≠ format 1048576 := by
  have hless : read? (format 1048524) = some (1023.9, 1024) := by
    rw [read?_of_shown (t := 10239) (k := 1) (by decide) (by decide)]
    norm_num
  have hkilo : read? (format 1048525) = some (1024, 1024) := by
    rw [read?_of_shown (t := 10240) (k := 1) (by decide) (by decide)]
    norm_num
  have hmega : read? (format 1048576) = some (1, 1048576) := by
    rw [read?_of_shown (t := 10) (k := 2) (by decide) (by decide)]
    norm_num
  have hquantity : (1024 : ℚ) * (1024 : Nat) = 1 * (1048576 : Nat) := by norm_num
  have hup : RoundsUp 1048525 := roundsUp_iff.mpr (by decide)
  have hexact : ¬ RoundsUp 1048576 := by
    rw [roundsUp_iff]
    decide
  obtain ⟨x, u, hread, -, -, hfits, -, hsame⟩ := number_of_unit 1048525
  rw [hkilo] at hread
  cases hread
  refine ⟨hless, ?_, hkilo, hup, hmega, hquantity, fun htexts => ?_⟩
  · rw [roundsUp_iff]
    decide
  · exact hexact (((hsame _ _ _ hmega hquantity).mp htexts).mp hup)

/-- One byte less than a megabyte is shown as 1024 kilobytes, and a megabyte as one: a number that
does not fit its unit, and two texts of one quantity. -/
theorem number_beyond_unit :
    format 1048575 = "1024 KB" ∧ read? (format 1048575) = some (1024, 1024) ∧
      ¬ ((1024 : ℚ) < 1024 ∨ 1024 = 1024 ^ 5) ∧
      format 1048576 = "1 MB" ∧ read? (format 1048576) = some (1, 1048576) ∧
      (1024 : ℚ) * (1024 : Nat) = 1 * (1048576 : Nat) ∧ format 1048575 ≠ format 1048576 := by
  have hkilo : format 1048575 = "1024 KB" := by decide +kernel
  have hmega : format 1048576 = "1 MB" := by decide +kernel
  refine ⟨hkilo, ?_, by norm_num, hmega, ?_, by norm_num, by rw [hkilo, hmega]; decide⟩
  · rw [read?_of_shown (t := 10240) (k := 1) (by decide) (by decide)]
    norm_num
  · rw [read?_of_shown (t := 10) (k := 2) (by decide) (by decide)]
    norm_num

end MediaMonitor.ByteSize
