import Mathlib.Data.List.Induction
import MediaMonitor.Text.Integer

/-!
# Integers are read as they are written

The digits of a number denote it (`ofDigitChars_natDigits`) and start with a zero only when they are
that zero (`natDigits_of_zero_cons`), so that an integer is read back from its decimal form
(`int?_intChars`) and no two integers have the same one (`intChars_injective`).  The decimal forms
are described without a reader and a writer, too (`IsDecimal`): what is written is the one form of
an integer (`isDecimal_iff`), and only that is read (`int?_eq_some_iff`).
-/

namespace MediaMonitor.Text

variable {n : Nat}

theorem natDigits_ne_nil (n : Nat) : natDigits n ≠ [] := Nat.toDigits_ne_nil

theorem isDigit_of_mem_natDigits {c : Char} (h : c ∈ natDigits n) : c.isDigit = true :=
  Nat.isDigit_of_mem_toDigits (by decide) (by decide) h

theorem ofDigitChars_natDigits (n : Nat) : Nat.ofDigitChars 10 (natDigits n) 0 = n :=
  Nat.ofDigitChars_toDigits (by decide) (by decide)

theorem exists_natDigits_cons (n : Nat) : ∃ d ds, natDigits n = d :: ds ∧ d.isDigit = true := by
  obtain ⟨d, ds, hds⟩ := List.exists_cons_of_ne_nil (natDigits_ne_nil n)
  exact ⟨d, ds, hds, isDigit_of_mem_natDigits (hds ▸ List.mem_cons_self)⟩

/-- Digits of which the first is a zero are that zero. -/
theorem natDigits_of_zero_cons {ds : List Char} (h : natDigits n = '0' :: ds) : ds = [] := by
  induction n using Nat.strongRecOn generalizing ds with
  | ind n ih =>
      rw [natDigits, Nat.toDigits_eq_if (by decide)] at h
      split at h
      case isTrue => exact (List.cons.inj h).2.symm
      case isFalse hn =>
        -- the digits in front of the last one are those of a smaller number, which is not zero
        obtain ⟨d, front, hfront⟩ := List.exists_cons_of_ne_nil (natDigits_ne_nil (n / 10))
        rw [← natDigits, hfront, List.cons_append] at h
        obtain ⟨rfl, -⟩ := List.cons.inj h
        have hzero := ofDigitChars_natDigits (n / 10)
        rw [hfront, ih (n / 10) (by omega) hfront, Nat.ofDigitChars_cons, Nat.ofDigitChars_nil]
          at hzero
        exact absurd hzero (by omega)

theorem nat?_natDigits (n : Nat) : nat? (natDigits n) = some n := by
  have hall : (natDigits n).all Char.isDigit = true :=
    List.all_eq_true.mpr (fun _ hc => isDigit_of_mem_natDigits hc)
  rw [nat?, if_pos ⟨natDigits_ne_nil n, hall⟩, ofDigitChars_natDigits]

/-- **An integer is read back from its decimal form.** -/
theorem int?_intChars (i : Int) : int? (intChars i) = some i := by
  cases i with
  | negSucc n =>
      simp only [intChars, int?, nat?_natDigits]
      exact Option.filter_some_pos (decide_eq_true rfl)
  | ofNat n =>
      obtain ⟨d, ds, hds, hd⟩ := exists_natDigits_cons n
      have hread : nat? (d :: ds) = some n := hds ▸ nat?_natDigits n
      rw [intChars, hds, int?.eq_def]
      split
      case h_1 heq => cases heq; cases hd
      case h_2 => rw [hread]; exact Option.filter_some_pos (decide_eq_true hds)

theorem intChars_ne_nil (i : Int) : intChars i ≠ [] := by
  cases i with
  | ofNat n => exact natDigits_ne_nil n
  | negSucc n => exact List.cons_ne_nil _ _

theorem of_mem_intChars {c : Char} {i : Int} (h : c ∈ intChars i) : c = '-' ∨ c.isDigit = true := by
  cases i with
  | ofNat n => exact .inr (isDigit_of_mem_natDigits h)
  | negSucc n => exact (List.mem_cons.mp h).imp_right isDigit_of_mem_natDigits

theorem intChars_injective {i j : Int} (h : intChars i = intChars j) : i = j := by
  have hread := int?_intChars i
  rw [h, int?_intChars] at hread
  exact (Option.some.inj hread).symm

/-! ### Decimal forms -/

/-- Digits of which a zero is the first only when it stands alone. -/
structure PlainDigits (ds : List Char) : Prop where
  ne_nil : ds ≠ []
  isDigit : ∀ c ∈ ds, c.isDigit = true
  zero_alone : ds.head? = some '0' → ds = ['0']

theorem plainDigits_natDigits (n : Nat) : PlainDigits (natDigits n) where
  ne_nil := natDigits_ne_nil n
  isDigit := fun _ hc => isDigit_of_mem_natDigits hc
  zero_alone := by
    intro hhead
    obtain ⟨ds, hds⟩ := List.head?_eq_some_iff.mp hhead
    rw [hds, natDigits_of_zero_cons hds]

/-- A digit is the digit of a number below ten. -/
theorem exists_digitChar {c : Char} (hc : c.isDigit = true) :
    ∃ k < 10, c = Nat.digitChar k := by
  obtain ⟨hzero, hnine⟩ := Char.isDigit_iff_toNat.mp hc
  have h48 : '0'.toNat = 48 := rfl
  have h57 : '9'.toNat = 57 := rfl
  have hk : c.toNat - 48 < 10 := by omega
  refine ⟨c.toNat - 48, hk, Char.toNat_inj.mp ?_⟩
  rw [Nat.toNat_digitChar_of_lt_ten hk]
  omega

/-- With a digit behind them, plain digits do not start with a zero. -/
theorem PlainDigits.head?_ne {front : List Char} {d : Char} (h : PlainDigits (front ++ [d])) :
    front.head? ≠ some '0' := by
  intro hhead
  have halone := h.zero_alone (by rw [List.head?_append, hhead]; rfl)
  obtain rfl : front = [] := by simpa using congrArg List.length halone
  cases hhead

/-- Plain digits are those of the number they denote. -/
theorem natDigits_ofDigitChars {ds : List Char} (h : PlainDigits ds) :
    natDigits (Nat.ofDigitChars 10 ds 0) = ds := by
  induction ds using List.reverseRecOn with
  | nil => exact absurd rfl h.ne_nil
  | append_singleton front d ih =>
      obtain ⟨k, hk, rfl⟩ := exists_digitChar (h.isDigit d (by simp))
      have hlast : natDigits k = [Nat.digitChar k] := Nat.toDigits_of_lt_base hk
      have hvalue : Nat.ofDigitChars 10 (front ++ [Nat.digitChar k]) 0 =
          10 * Nat.ofDigitChars 10 front 0 + k := by
        rw [Nat.ofDigitChars_append, Nat.ofDigitChars_cons_digitChar_of_lt_ten hk,
          Nat.ofDigitChars_nil]
      rw [hvalue]
      by_cases hfront : front = []
      · subst hfront
        rw [Nat.ofDigitChars_nil, Nat.mul_zero, Nat.zero_add, hlast]
        rfl
      · have hplain : PlainDigits front := {
          ne_nil := hfront
          isDigit := fun c hc => h.isDigit c (List.mem_append_left _ hc)
          zero_alone := fun hhead => absurd hhead h.head?_ne }
        have hdigits := ih hplain
        have hpos : 0 < Nat.ofDigitChars 10 front 0 := by
          refine Nat.pos_of_ne_zero fun hzero => h.head?_ne ?_
          rw [← hdigits, hzero]
          rfl
        rw [natDigits, ← Nat.toDigits_append_toDigits (by decide) hpos hk, ← natDigits,
          ← natDigits, hdigits, hlast]

/-- The decimal form of an integer: plain digits, with a minus sign in front of them when the
integer is negative. -/
inductive IsDecimal : List Char → Int → Prop where
  | nonneg {ds : List Char} (h : PlainDigits ds) : IsDecimal ds (Nat.ofDigitChars 10 ds 0 : Nat)
  | neg {ds : List Char} (h : PlainDigits ds) (hne : ds ≠ ['0']) :
      IsDecimal ('-' :: ds) (-(Nat.ofDigitChars 10 ds 0 : Nat))

/-- **An integer has one decimal form**, in which it is written. -/
theorem isDecimal_iff {cs : List Char} {i : Int} : IsDecimal cs i ↔ cs = intChars i := by
  constructor
  · rintro (⟨h⟩ | ⟨h, hne⟩)
    · exact (natDigits_ofDigitChars h).symm
    · have hdigits := natDigits_ofDigitChars h
      cases hvalue : Nat.ofDigitChars 10 _ 0 with
      | zero =>
          rw [hvalue] at hdigits
          exact absurd hdigits.symm hne
      | succ n =>
          rw [hvalue] at hdigits
          exact congrArg _ hdigits.symm
  · rintro rfl
    cases i with
    | ofNat n =>
        have h := IsDecimal.nonneg (plainDigits_natDigits n)
        rwa [ofDigitChars_natDigits] at h
    | negSucc n =>
        have hne : natDigits (n + 1) ≠ ['0'] := by
          intro hzero
          have hvalue := ofDigitChars_natDigits (n + 1)
          rw [hzero] at hvalue
          cases hvalue
        have h := IsDecimal.neg (plainDigits_natDigits (n + 1)) hne
        rwa [ofDigitChars_natDigits] at h

/-- A decimal form is read as the integer it denotes, and nothing else is read. -/
theorem int?_eq_some_iff {cs : List Char} {i : Int} : int? cs = some i ↔ IsDecimal cs i := by
  rw [isDecimal_iff]
  constructor
  · intro h
    exact (of_decide_eq_true (Option.filter_eq_some_iff.mp h).2).symm
  · rintro rfl
    exact int?_intChars i

end MediaMonitor.Text
