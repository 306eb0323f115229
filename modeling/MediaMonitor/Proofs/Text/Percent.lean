import MediaMonitor.Proofs.Text.Utf8
import MediaMonitor.Text.Hexadecimal
import MediaMonitor.Text.Percent

/-!
# Percent-encoded texts are read back

A percent-encoded text is read octet by octet: `%` and two hexadecimal digits are one octet, and
every other character stands for itself.  What is encoded is read back (`decode?_encode`), and holds
none of the characters that divide a query string or end it (`mem_encode`).
-/

namespace MediaMonitor.Text.Percent

/-- The octets that a percent-encoded text stands for. -/
def octets? : List Char → Option (List UInt8)
  | [] => some []
  | '%' :: a :: b :: rest => do
      let high ← hexValue? a
      let low ← hexValue? b
      let bs ← octets? rest
      return UInt8.ofNat (high * 16 + low) :: bs
  | c :: rest => if c = '%' then none else (octets? rest).map (String.utf8EncodeChar c ++ ·)

/-- The text that a percent-encoded text stands for. -/
def decode? (cs : List Char) : Option String := (octets? cs).bind Utf8.toText?

/-- The characters that are left as they are. -/
def IsPlain (c : Char) : Prop := c.isAlphanum = true ∨ c ∈ ['-', '_', '.', '~']

instance (c : Char) : Decidable (IsPlain c) := inferInstanceAs (Decidable (_ ∨ _))

/-! ### One octet -/

theorem hexValue?_hexDigit : ∀ n < 16, hexValue? (hexDigit n) = some n := by decide

theorem isAlphanum_hexDigit : ∀ n < 16, (hexDigit n).isAlphanum = true := by decide

theorem octets?_of_ne {c : Char} (hc : c ≠ '%') (rest : List Char) :
    octets? (c :: rest) = (octets? rest).map (String.utf8EncodeChar c ++ ·) := by
  rw [octets?.eq_def]
  split
  case h_1 heq => cases heq
  case h_2 heq => exact absurd (List.cons.inj heq).1 hc
  case h_3 heq => cases heq; exact if_neg hc

theorem isPlain_of_isUnreserved {b : UInt8} (h : isUnreserved b = true) :
    b.toNat < 0x80 ∧ IsPlain (Char.ofNat b.toNat) := by
  simp only [isUnreserved, Bool.and_eq_true, Bool.or_eq_true, decide_eq_true_eq, beq_iff_eq] at h
  obtain ⟨hlt, h⟩ := h
  refine ⟨hlt, ?_⟩
  rcases h with ((((h | h) | h) | h) | h) <;> simp [IsPlain, h]

theorem IsPlain.ne_percent {c : Char} (h : IsPlain c) : c ≠ '%' := by
  rintro rfl
  exact absurd h (by decide)

theorem utf8EncodeChar_ofNat :
    ∀ n < 0x80, String.utf8EncodeChar (Char.ofNat n) = [UInt8.ofNat n] := by decide

/-- An octet is read from the characters it is written as. -/
theorem octets?_encodeOctet (b : UInt8) (rest : List Char) :
    octets? (encodeOctet b ++ rest) = (octets? rest).map (b :: ·) := by
  have hlt := b.toNat_lt
  rw [encodeOctet]
  split
  case isTrue h =>
    obtain ⟨hsmall, hplain⟩ := isPlain_of_isUnreserved h
    rw [List.singleton_append, octets?_of_ne hplain.ne_percent, utf8EncodeChar_ofNat _ hsmall,
      UInt8.ofNat_toNat]
    rfl
  case isFalse =>
    have hhigh := hexValue?_hexDigit (b.toNat / 16) (by omega)
    have hlow := hexValue?_hexDigit (b.toNat % 16) (by omega)
    have hvalue : b.toNat / 16 * 16 + b.toNat % 16 = b.toNat := by omega
    simp only [List.cons_append, List.nil_append, octets?, hhigh, hlow, hvalue,
      UInt8.ofNat_toNat, Option.bind_eq_bind, Option.bind_some]
    exact Option.map_eq_bind.symm

/-- An octet is written in plain characters and percent signs. -/
theorem mem_encodeOctet {b : UInt8} {c : Char} (hc : c ∈ encodeOctet b) : IsPlain c ∨ c = '%' := by
  have hlt := b.toNat_lt
  rw [encodeOctet] at hc
  split at hc
  case isTrue h =>
    rw [List.mem_singleton.mp hc]
    exact .inl (isPlain_of_isUnreserved h).2
  case isFalse =>
    simp only [List.mem_cons, List.not_mem_nil, or_false] at hc
    rcases hc with rfl | rfl | rfl
    · exact .inr rfl
    · exact .inl (.inl (isAlphanum_hexDigit _ (by omega)))
    · exact .inl (.inl (isAlphanum_hexDigit _ (by omega)))

/-! ### A text -/

theorem octets?_flatMap (bs : List UInt8) : octets? (bs.flatMap encodeOctet) = some bs := by
  induction bs with
  | nil => rw [List.flatMap_nil, octets?]
  | cons b bs ih => rw [List.flatMap_cons, octets?_encodeOctet, ih, Option.map_some]

/-- **A text is read back from its percent-encoded form.** -/
theorem decode?_encode (s : String) : decode? (encode s) = some s := by
  rw [decode?, encode, octets?_flatMap]
  exact Utf8.toText?_ofText s

theorem mem_encode {s : String} {c : Char} (hc : c ∈ encode s) : IsPlain c ∨ c = '%' := by
  obtain ⟨b, -, hb⟩ := List.mem_flatMap.mp hc
  exact mem_encodeOctet hb

/-! ### Plain texts -/

theorem isAlphanum_eq (c : Char) :
    c.isAlphanum = (decide ('A'.val ≤ c.val ∧ c.val ≤ 'Z'.val) ||
      (decide ('a'.val ≤ c.val) && decide (c.val ≤ 'z'.val)) ||
      (decide ('0'.val ≤ c.val) && decide (c.val ≤ '9'.val))) := rfl

theorem toNat_lt_of_isPlain {c : Char} (h : IsPlain c) : c.toNat < 0x80 := by
  rcases h with h | h
  · have hupper : ('Z'.val).toNat = 90 := rfl
    have hlower : ('z'.val).toNat = 122 := rfl
    have hdigit : ('9'.val).toNat = 57 := rfl
    simp only [isAlphanum_eq, Bool.or_eq_true, Bool.and_eq_true, decide_eq_true_eq,
      UInt32.le_iff_toNat_le] at h
    rw [Char.toNat]
    omega
  · simp only [List.mem_cons, List.not_mem_nil, or_false] at h
    rcases h with rfl | rfl | rfl | rfl <;> decide

theorem encodeChar_ofNat : ∀ n < 0x80, IsPlain (Char.ofNat n) →
    (String.utf8EncodeChar (Char.ofNat n)).flatMap encodeOctet = [Char.ofNat n] := by decide

/-- A plain text is left as it is. -/
theorem encode_of_isPlain {s : String} (h : ∀ c ∈ s.toList, IsPlain c) : encode s = s.toList := by
  rw [encode, List.flatMap_assoc]
  generalize s.toList = cs at h ⊢
  induction cs with
  | nil => rfl
  | cons c cs ih =>
      obtain ⟨hc, hcs⟩ := List.forall_mem_cons.mp h
      have hchar := encodeChar_ofNat c.toNat (toNat_lt_of_isPlain hc)
      rw [Char.ofNat_toNat] at hchar
      rw [List.flatMap_cons, hchar hc, ih hcs]
      rfl

theorem isPlain_of_isDigit {c : Char} (h : c.isDigit = true) : IsPlain c :=
  .inl (by rw [Char.isAlphanum, h, Bool.or_true])

end MediaMonitor.Text.Percent
