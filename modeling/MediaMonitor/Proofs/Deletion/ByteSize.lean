import Mathlib.Algebra.Order.Field.Rat
import Mathlib.Data.Nat.Cast.Order.Ring
import Mathlib.Tactic.IntervalCases
import Mathlib.Tactic.Linarith
import Mathlib.Tactic.NormNum
import Mathlib.Tactic.Ring
import MediaMonitor.Deletion.ByteSize
import MediaMonitor.Proofs.Number.Rounding
import MediaMonitor.Proofs.Text.Integer
import MediaMonitor.Text.Split

/-!
# What a byte size shows

A size is read as a number with at most one decimal and the number of bytes of its unit
(`ByteSize.read?`), which together denote a quantity of bytes.  It is within a twentieth of the unit
of the number of bytes that it stands for, up to what is lost when that number becomes a double, and
a greater number of bytes never shows a lesser quantity (`ByteSize.read?_format`).  Where the unit
changes, the quantities below it stop at one of the next unit.
-/

namespace MediaMonitor.ByteSize

open Text

/-! ### Reading a size -/

/-- A number with at most one decimal, which is not a zero. -/
def number? (cs : List Char) : Option ℚ :=
  match splitFirst '.' cs with
  | none => (nat? cs).map (fun n : Nat => (n : ℚ))
  | some (whole, [d]) =>
      if d = '0' then none
      else (nat? whole).bind (fun n => (nat? [d]).map (fun m : Nat => (n : ℚ) + (m : ℚ) / 10))
  | some _ => none

/-- The name of a unit of 1024 ^ `k` bytes. -/
def unitName (k : Nat) : String := ("B" :: units).getD k "B"

/-- The number of bytes of a unit. -/
def unitBytes? (name : String) : Option Nat :=
  ((List.range 6).find? (fun k => unitName k = name)).map (1024 ^ ·)

/-- The number and the bytes of the unit that a size shows. -/
def read? (s : String) : Option (ℚ × Nat) := do
  let (number, name) ← splitFirst ' ' s.toList
  let x ← number? number
  let u ← unitBytes? (String.ofList name)
  return (x, u)

/-! ### Tenths -/

theorem not_mem_natDigits {c : Char} (hc : c.isDigit = false) (n : Nat) : c ∉ natDigits n :=
  fun hmem => by simp [isDigit_of_mem_natDigits hmem] at hc

theorem natDigits_of_lt_ten {d : Nat} (hd : d < 10) : natDigits d = [Nat.digitChar d] :=
  Nat.toDigits_of_lt_base hd

theorem number?_writeTenths (t : Nat) : number? (writeTenths t) = some ((t : ℚ) / 10) := by
  have hdivision : (t : ℚ) = 10 * (t / 10 : Nat) + (t % 10 : Nat) := by
    exact_mod_cast (Nat.div_add_mod t 10).symm
  have hpoint : '.' ∉ natDigits (t / 10) := not_mem_natDigits rfl _
  rw [writeTenths]
  split
  case isTrue hwhole =>
    rw [number?, splitFirst_eq, if_neg hpoint]
    simp only [nat?_natDigits, Option.map_some, Option.some.injEq]
    rw [hdivision, hwhole]
    push_cast
    ring
  case isFalse hpart =>
    have hlt : t % 10 < 10 := Nat.mod_lt t (by decide)
    have hdigit : nat? [Nat.digitChar (t % 10)] = some (t % 10) :=
      natDigits_of_lt_ten hlt ▸ nat?_natDigits (t % 10)
    have hzero : Nat.digitChar (t % 10) ≠ '0' := by
      intro h
      rw [h] at hdigit
      exact hpart (Option.some.inj hdigit).symm
    rw [natDigits_of_lt_ten hlt, number?, splitFirst_append hpoint]
    simp only [if_neg hzero, nat?_natDigits, hdigit, Option.bind_some, Option.map_some,
      Option.some.injEq]
    rw [hdivision]
    ring

theorem space_not_mem_writeTenths (t : Nat) : ' ' ∉ writeTenths t := by
  have hspace (n : Nat) : ' ' ∉ natDigits n := not_mem_natDigits rfl n
  rw [writeTenths]
  split
  · exact hspace _
  · simp [hspace]

/-! ### Units -/

theorem exponent_le (n most : Nat) : exponent n most ≤ most := by
  induction most with
  | zero => exact Nat.le_refl 0
  | succ most ih =>
      rw [exponent]
      split
      · exact Nat.le_refl _
      · exact ih.trans (Nat.le_succ most)

/-- At least one of the unit is left. -/
theorem pow_exponent_le {n : Nat} (hn : 0 < n) (most : Nat) : 1024 ^ exponent n most ≤ n := by
  induction most with
  | zero => exact hn
  | succ most ih =>
      rw [exponent]
      split
      case isTrue h => exact h
      case isFalse => exact ih

/-- Unless the unit is the greatest one, less than one of the next is left. -/
theorem lt_pow_exponent {n most : Nat} (h : exponent n most < most) :
    n < 1024 ^ (exponent n most + 1) := by
  induction most with
  | zero => exact absurd h (Nat.not_lt_zero _)
  | succ most ih =>
      rw [exponent] at h ⊢
      split at h
      case isTrue => exact absurd h (Nat.lt_irrefl _)
      case isFalse hlt =>
        rw [if_neg hlt]
        rcases Nat.lt_or_eq_of_le (exponent_le n most) with hless | heq
        · exact ih hless
        · rw [heq]
          exact Nat.not_le.mp hlt

theorem exponent_mono {m n : Nat} (h : m ≤ n) (most : Nat) :
    exponent m most ≤ exponent n most := by
  induction most with
  | zero => exact Nat.le_refl 0
  | succ most ih =>
      rw [exponent, exponent]
      split
      case isTrue hm => rw [if_pos (hm.trans h)]
      case isFalse =>
        split
        · exact (exponent_le m most).trans (Nat.le_succ most)
        · exact ih

/-! ### The quantity shown -/

/-- The number of bytes that is shown. -/
def rounded (bytes : UInt64) : Nat := nearestDouble bytes.toNat

/-- The power of 1024 of the unit that is shown. -/
def power (bytes : UInt64) : Nat := exponent (rounded bytes) 5

/-- The tenths of the unit that are shown. -/
def shownTenths (bytes : UInt64) : Nat := tenths (rounded bytes) (power bytes)

section
variable {bytes : UInt64}

theorem rounded_of_lt (h : bytes.toNat < 2 ^ 53) : rounded bytes = bytes.toNat :=
  nearestDouble_of_lt h

theorem power_le (bytes : UInt64) : power bytes ≤ 5 := exponent_le _ 5

theorem power_of_lt (h : bytes.toNat < 1024) : power bytes = 0 := by
  rw [power, rounded_of_lt (h.trans (by decide))]
  by_contra hne
  have hpos : 0 < bytes.toNat := by
    refine Nat.pos_of_ne_zero fun hzero => hne ?_
    rw [hzero]
    decide
  have hle := pow_exponent_le hpos 5
  have hpow : 1024 ^ 1 ≤ 1024 ^ exponent bytes.toNat 5 :=
    Nat.pow_le_pow_right (by decide) (Nat.pos_of_ne_zero hne)
  omega

theorem tenths_zero (n : Nat) : tenths n 0 = 10 * n := by
  have hround := roundHalfEven_mul Nat.one_pos (10 * n)
  rwa [Nat.mul_one] at hround

theorem shownTenths_of_lt (h : bytes.toNat < 1024) : shownTenths bytes = 10 * bytes.toNat := by
  rw [shownTenths, power_of_lt h, tenths_zero, rounded_of_lt (h.trans (by decide))]

theorem writeTenths_mul_ten (n : Nat) : writeTenths (10 * n) = natDigits n := by
  rw [writeTenths, if_pos (Nat.mul_mod_right 10 n), Nat.mul_div_cancel_left n (by decide)]

/-- A size of any number of bytes is written in one way. -/
theorem format_eq (bytes : UInt64) :
    format bytes =
      String.ofList (writeTenths (shownTenths bytes)) ++ " " ++ unitName (power bytes) := by
  rw [format]
  split
  case isTrue h =>
    rw [shownTenths_of_lt h, writeTenths_mul_ten, power_of_lt h, String.append_assoc]
    rfl
  case isFalse h =>
    have hle : 1024 ^ 1 ≤ rounded bytes := by
      have hmono := nearestDouble_mono (Nat.not_lt.mp h)
      rwa [nearestDouble_of_lt (by decide)] at hmono
    have hpower : power bytes ≠ 0 := fun hzero => by
      have hlt : rounded bytes < 1024 ^ (power bytes + 1) :=
        lt_pow_exponent ((Nat.le_of_eq hzero).trans_lt (by decide))
      rw [hzero] at hlt
      omega
    obtain ⟨k, hk⟩ := Nat.exists_eq_succ_of_ne_zero hpower
    have hunit : units.getD (power bytes - 1) "B" = unitName (power bytes) := by
      rw [hk]
      rfl
    rw [← hunit]
    rfl

theorem unitBytes?_unitName {k : Nat} (hk : k ≤ 5) : unitBytes? (unitName k) = some (1024 ^ k) := by
  interval_cases k <;> rfl

/-- **A size is read as what is shown of the number of bytes.** -/
theorem read?_eq (bytes : UInt64) :
    read? (format bytes) = some ((shownTenths bytes : ℚ) / 10, 1024 ^ power bytes) := by
  have hsplit : splitFirst ' ' (format bytes).toList =
      some (writeTenths (shownTenths bytes), (unitName (power bytes)).toList) := by
    rw [format_eq, String.toList_append, String.toList_append, String.toList_ofList,
      List.append_assoc]
    exact splitFirst_append (space_not_mem_writeTenths _)
  have hunit := unitBytes?_unitName (power_le bytes)
  simp only [read?, hsplit, Option.bind_eq_bind, Option.bind_some, number?_writeTenths,
    String.ofList_toList, hunit]
  rfl

/-! ### How exact it is -/

/-- Tenths of a unit are rounded by half of one at most. -/
theorem shownTenths_bounds (bytes : UInt64) :
    2 * (shownTenths bytes * 1024 ^ power bytes) ≤ 20 * rounded bytes + 1024 ^ power bytes ∧
      20 * rounded bytes ≤ 2 * (shownTenths bytes * 1024 ^ power bytes) + 1024 ^ power bytes := by
  have hunit : 0 < 1024 ^ power bytes := Nat.pow_pos (by decide)
  have hle := roundHalfEven_mul_le (10 * rounded bytes) (1024 ^ power bytes)
  have hge := le_roundHalfEven_mul hunit (10 * rounded bytes)
  have htenths : shownTenths bytes = roundHalfEven (10 * rounded bytes) (1024 ^ power bytes) := rfl
  rw [htenths]
  omega

/-- The quantity differs from the number of bytes by a twentieth of the unit at most, and by what
the double differs from it. -/
theorem abs_quantity_sub_le (lost : Nat) (hle : rounded bytes ≤ bytes.toNat + lost)
    (hge : bytes.toNat ≤ rounded bytes + lost) :
    |(shownTenths bytes : ℚ) / 10 * (1024 ^ power bytes : Nat) - bytes.toNat| ≤
      (1024 ^ power bytes : Nat) / 20 + lost := by
  obtain ⟨hupper, hlower⟩ := shownTenths_bounds bytes
  have hupper : (2 : ℚ) * (shownTenths bytes * (1024 ^ power bytes : Nat)) ≤
      20 * (bytes.toNat + lost) + (1024 ^ power bytes : Nat) := by
    exact_mod_cast hupper.trans (by omega)
  have hlower : (20 : ℚ) * bytes.toNat ≤ 2 * (shownTenths bytes * (1024 ^ power bytes : Nat)) +
      (1024 ^ power bytes : Nat) + 20 * lost := by
    exact_mod_cast (show 20 * bytes.toNat ≤ _ by omega)
  have hquantity : (shownTenths bytes : ℚ) / 10 * (1024 ^ power bytes : Nat) =
      shownTenths bytes * (1024 ^ power bytes : Nat) / 10 := by ring
  rw [hquantity, abs_le]
  constructor <;> linarith

end

/-! ### Order -/

theorem rounded_mono {b c : UInt64} (h : b ≤ c) : rounded b ≤ rounded c :=
  nearestDouble_mono (UInt64.le_iff_toNat_le.mp h)

/-- **More bytes show no lesser quantity.** -/
theorem quantity_mono {b c : UInt64} (h : b ≤ c) :
    shownTenths b * 1024 ^ power b ≤ shownTenths c * 1024 ^ power c := by
  have hrounded := rounded_mono h
  rcases Nat.lt_or_eq_of_le (exponent_mono hrounded 5) with hlt | heq
  · -- ten tenths of the greater unit lie between the two
    have hpos : 0 < rounded c := by
      refine Nat.pos_of_ne_zero fun hzero => ?_
      rw [hzero] at hlt
      exact absurd hlt (Nat.not_lt_zero _)
    have hless : rounded b < 1024 ^ (power b + 1) :=
      lt_pow_exponent (hlt.trans_le (power_le c))
    have hb : shownTenths b ≤ 10240 := by
      refine roundHalfEven_le (Nat.pow_pos (by decide)) ?_
      change 10 * rounded b ≤ 10240 * 1024 ^ power b
      rw [Nat.pow_succ] at hless
      omega
    have hc : 10 ≤ shownTenths c :=
      le_roundHalfEven (Nat.pow_pos (by decide))
        (Nat.mul_le_mul_left 10 (pow_exponent_le hpos 5))
    calc shownTenths b * 1024 ^ power b
        ≤ 10240 * 1024 ^ power b := Nat.mul_le_mul_right _ hb
      _ = 10 * 1024 ^ (power b + 1) := by rw [Nat.pow_succ]; omega
      _ ≤ 10 * 1024 ^ power c := Nat.mul_le_mul_left _ (Nat.pow_le_pow_right (by decide) hlt)
      _ ≤ shownTenths c * 1024 ^ power c := Nat.mul_le_mul_right _ hc
  · have hpower : power b = power c := heq
    rw [hpower]
    refine Nat.mul_le_mul_right _ ?_
    rw [shownTenths, shownTenths, hpower]
    exact roundHalfEven_mono _ (Nat.mul_le_mul_left 10 hrounded)

/-- **What a size shows.**  A size is read as a number of units of 1, 1024, ... or 1024⁵ bytes.  The
quantity differs from the number of bytes by a twentieth of the unit at most, and by 1024 more when
the number of bytes is too great for a double; it is exact below 1024, where the unit is the byte;
and no greater number of bytes shows a lesser quantity. -/
theorem read?_format (b : UInt64) :
    ∃ (x : ℚ) (u : Nat), read? (format b) = some (x, u) ∧ (∃ k ≤ 5, u = 1024 ^ k) ∧
      |x * u - b.toNat| ≤ (u : ℚ) / 20 + 1024 ∧
      (b.toNat < 2 ^ 53 → |x * u - b.toNat| ≤ (u : ℚ) / 20) ∧
      (b.toNat < 1024 → x = b.toNat ∧ u = 1) ∧
      ∀ c ≥ b, ∀ (y : ℚ) (v : Nat), read? (format c) = some (y, v) → x * u ≤ y * v := by
  refine ⟨_, _, read?_eq b, ⟨power b, power_le b, rfl⟩, ?_, fun hb => ?_, fun hb => ?_, ?_⟩
  · exact abs_quantity_sub_le 1024 (nearestDouble_le b.toNat_lt) (le_nearestDouble b.toNat_lt)
  · have hexact := rounded_of_lt hb
    have hbound := abs_quantity_sub_le 0 hexact.le hexact.ge
    rwa [Nat.cast_zero, add_zero] at hbound
  · rw [shownTenths_of_lt hb, power_of_lt hb]
    refine ⟨?_, rfl⟩
    push_cast
    ring
  · intro c hc y v hread
    rw [read?_eq c] at hread
    cases hread
    have hmono : (shownTenths b : ℚ) * (1024 ^ power b : Nat) ≤
        shownTenths c * (1024 ^ power c : Nat) := by exact_mod_cast quantity_mono hc
    linarith

/-- One byte less than a megabyte shows the quantity of a megabyte, in the smaller unit. -/
theorem read?_format_near_units :
    read? (format 1048575) = some (1024, 1024) ∧ read? (format 1048576) = some (1, 1048576) ∧
      (1048575 : UInt64) ≤ 1048576 ∧ (1024 : ℚ) * (1024 : Nat) ≤ 1 * (1048576 : Nat) := by
  obtain ⟨x, u, hx, -, -, -, -, hmono⟩ := read?_format 1048575
  have hbelow : read? (format 1048575) = some (1024, 1024) := by
    rw [read?_eq]
    have h1 : shownTenths 1048575 = 10240 := by decide
    have h2 : power 1048575 = 1 := by decide
    rw [h1, h2]
    norm_num
  have habove : read? (format 1048576) = some (1, 1048576) := by
    rw [read?_eq]
    have h1 : shownTenths 1048576 = 10 := by decide
    have h2 : power 1048576 = 2 := by decide
    rw [h1, h2]
    norm_num
  rw [hbelow] at hx
  cases hx
  exact ⟨hbelow, habove, by decide, hmono _ (by decide) _ _ habove⟩

end MediaMonitor.ByteSize
