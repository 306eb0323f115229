import MediaMonitor.RunId

/-!
# Run ids are distinct

The written form of a run id determines its number: `text_injective`.  The five groups have fixed
widths, the first one apart, so that two equal forms agree group by group, counted from the end; and
`value`, which reads hexadecimal digits, gives back the part of the number that a group shows.
-/

namespace MediaMonitor.RunId

/-- The number that hexadecimal digits denote, behind the digits of `n`. -/
def value (n : Nat) (cs : List Char) : Nat :=
  cs.foldl (fun n c => n * 16 + (Text.hexValue? c).getD 0) n

theorem value_append (n : Nat) (xs ys : List Char) :
    value n (xs ++ ys) = value (value n xs) ys := by
  simp [value]

theorem value_digitChar (n : Nat) {d : Nat} (h : d < 16) :
    value n [Nat.digitChar d] = n * 16 + d := by
  simp [value, Text.hexValue?_digitChar d h]

theorem value_zeros (k : Nat) : value 0 (List.replicate k '0') = 0 := by
  induction k with
  | zero => rfl
  | succ k ih =>
      have h : value 0 ['0'] = 0 := by decide
      rw [List.replicate_succ', value_append, ih, h]

theorem value_toDigits (n : Nat) : value 0 (Nat.toDigits 16 n) = n := by
  induction n using Nat.strongRecOn with
  | ind n ih =>
      rw [Nat.toDigits_eq_if (by omega)]
      split
      · rename_i h
        simpa using value_digitChar 0 h
      · rename_i h
        rw [value_append, ih (n / 16) (by omega), value_digitChar _ (Nat.mod_lt _ (by omega))]
        omega

theorem value_digits (width n : Nat) : value 0 (digits width n) = n := by
  rw [digits, value_append, value_zeros, value_toDigits]

theorem length_lastDigits (n width : Nat) : (lastDigits n width).length = width := by
  induction width generalizing n with
  | zero => rfl
  | succ width ih => simp [lastDigits, ih]

theorem value_lastDigits (n width : Nat) :
    value 0 (lastDigits n width) = n % Nat.pow 16 width := by
  induction width generalizing n with
  | zero => simp [lastDigits, value, Nat.mod_one]
  | succ width ih =>
      have h : Nat.pow 16 (width + 1) = 16 * Nat.pow 16 width := by
        rw [Nat.mul_comm]; rfl
      rw [lastDigits, value_append, ih, value_digitChar _ (Nat.mod_lt _ (by omega)), h,
        Nat.mod_mul]
      omega

/-- Two groups of one width that are written alike show the same number. -/
theorem mod_eq_of_lastDigits {n m width : Nat} (h : lastDigits n width = lastDigits m width) :
    n % Nat.pow 16 width = m % Nat.pow 16 width := by
  rw [← value_lastDigits, h, value_lastDigits]

theorem eq_of_digits {n m width : Nat} (h : digits width n = digits width m) : n = m := by
  rw [← value_digits width n, h, value_digits]

/-- A group and the hyphen before it, taken off the end of two equal texts. -/
theorem split_group {xs ys : List Char} {n m width : Nat}
    (h : xs ++ '-' :: lastDigits n width = ys ++ '-' :: lastDigits m width) :
    xs = ys ∧ lastDigits n width = lastDigits m width := by
  obtain ⟨h₁, h₂⟩ := List.append_inj' h (by simp [length_lastDigits])
  exact ⟨h₁, (List.cons.inj h₂).2⟩

/-- **Runs with one id are one run.** -/
theorem text_injective {r s : RunId} (h : r.text = s.text) : r = s := by
  obtain ⟨n⟩ := r
  obtain ⟨m⟩ := s
  have h := String.ofList_injective h
  simp only [textChars] at h
  obtain ⟨h, h₁⟩ := split_group h
  obtain ⟨h, h₂⟩ := split_group h
  obtain ⟨h, h₃⟩ := split_group h
  obtain ⟨h, h₄⟩ := split_group h
  have e := eq_of_digits h
  have e₁ := mod_eq_of_lastDigits h₁
  have e₂ := mod_eq_of_lastDigits h₂
  have e₃ := mod_eq_of_lastDigits h₃
  have e₄ := mod_eq_of_lastDigits h₄
  have : n = m := by
    simp only [Nat.pow_eq] at e e₁ e₂ e₃ e₄
    omega
  rw [this]

end MediaMonitor.RunId
