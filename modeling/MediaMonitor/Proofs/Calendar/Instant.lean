import Mathlib.Algebra.Ring.Nat
import Mathlib.Tactic.SplitIfs
import MediaMonitor.Calendar.Instant
import MediaMonitor.Proofs.Text.Integer

/-!
# Instants are read as they are written

A number padded to a width takes up exactly that width (`length_padded`), so whatever follows, its
digits are found again (`digits?_padded`); only the fraction of a second, of which a reader does not
know the width, has to be followed by something that is no digit.  In the years that are written
without a sign every instant is read from its written form (`ofText?_write`), with the sixty-first
second of a minute and all its nanoseconds.
-/

namespace MediaMonitor.Instant

open Text

variable {width n : Nat} {ds rest : List Char}

/-! ### Padded numbers -/

theorem isDigit_of_mem_padded {c : Char} (h : c ∈ padded width n) : c.isDigit = true := by
  rcases List.mem_append.mp h with h | h
  · rw [List.eq_of_mem_replicate h]
    rfl
  · exact isDigit_of_mem_natDigits h

theorem length_padded (hwidth : 0 < width) (hn : n < 10 ^ width) :
    (padded width n).length = width := by
  have hlength : (natDigits n).length ≤ width :=
    (Nat.length_toDigits_le_iff (by decide) hwidth).mpr hn
  rw [padded, List.length_append, List.length_replicate]
  omega

theorem ofDigitChars_padded (width n : Nat) : Nat.ofDigitChars 10 (padded width n) 0 = n := by
  rw [padded, Nat.ofDigitChars_append, Nat.ofDigitChars_replicate_zero, Nat.mul_zero,
    ofDigitChars_natDigits]

theorem padded_ne_nil (width n : Nat) : padded width n ≠ [] :=
  List.append_ne_nil_of_right_ne_nil _ (natDigits_ne_nil n)

/-- Digits are read up to the width, or up to what is no digit. -/
theorem digits?_append (hne : ds ≠ []) (hds : ∀ c ∈ ds, c.isDigit = true)
    (hlength : ds.length ≤ width)
    (hrest : ds.length = width ∨ ∀ c ∈ rest.head?, c.isDigit = false) :
    digits? width (ds ++ rest) = some (Nat.ofDigitChars 10 ds 0, rest) := by
  have hnone : (rest.take (width - ds.length)).takeWhile Char.isDigit = [] := by
    rcases hrest with hfull | hhead
    · rw [hfull, Nat.sub_self, List.take_zero, List.takeWhile_nil]
    · cases rest with
      | nil => rw [List.take_nil, List.takeWhile_nil]
      | cons c rest =>
          cases width - ds.length with
          | zero => rfl
          | succ k => rw [List.take_succ_cons, List.takeWhile_cons_of_neg (by simp [hhead c rfl])]
  have htaken : ((ds ++ rest).take width).takeWhile Char.isDigit = ds := by
    rw [List.take_append, List.take_of_length_le hlength, List.takeWhile_append_of_pos hds, hnone,
      List.append_nil]
  rw [digits?, htaken, if_neg hne, List.drop_left]

theorem skipBlank_cons {c : Char} (hc : isBlank c = false) : skipBlank (c :: rest) = c :: rest := by
  rw [skipBlank, List.dropWhile_cons_of_neg (by simp [hc])]

theorem skipBlank_padded (width n : Nat) (rest : List Char) :
    skipBlank (padded width n ++ rest) = padded width n ++ rest := by
  obtain ⟨d, ds, hds⟩ := List.exists_cons_of_ne_nil (padded_ne_nil width n)
  have hd : d.isDigit = true := isDigit_of_mem_padded (hds ▸ List.mem_cons_self)
  rw [hds, List.cons_append, skipBlank_cons (isBlank_of_isDigit hd)]

theorem digits?_padded (hwidth : 0 < width) (hn : n < 10 ^ width) (rest : List Char) :
    digits? width (padded width n ++ rest) = some (n, rest) := by
  have hlength := length_padded hwidth hn
  rw [digits?_append (padded_ne_nil width n) (fun _ => isDigit_of_mem_padded) (Nat.le_of_eq hlength)
    (.inl hlength), ofDigitChars_padded]

theorem number?_padded (hwidth : 0 < width) (hn : n < 10 ^ width) (rest : List Char) :
    number? width (padded width n ++ rest) = some (n, rest) := by
  rw [number?, skipBlank_padded, digits?_padded hwidth hn]

theorem mark?_cons {c : Char} (hc : isBlank c = false) (rest : List Char) :
    mark? c (c :: rest) = some rest := by
  rw [mark?, skipBlank_cons hc]
  exact if_pos rfl

theorem year?_writeYear {year : Int} (hyear : 0 ≤ year ∧ year ≤ 9999) (rest : List Char) :
    year? (writeYear year ++ rest) = some (year, rest) := by
  have hdigits : year.toNat < 10 ^ 4 := by omega
  have hread := digits?_padded (by decide) hdigits rest
  obtain ⟨d, ds, hds⟩ := List.exists_cons_of_ne_nil (padded_ne_nil 4 year.toNat)
  have hd : d.isDigit = true := isDigit_of_mem_padded (hds ▸ List.mem_cons_self)
  rw [writeYear, if_pos hyear, year?.eq_def, skipBlank_padded]
  split
  case h_1 heq =>
    rw [hds] at heq
    cases heq
    cases hd
  case h_2 heq =>
    rw [hds] at heq
    cases heq
    cases hd
  case h_3 => rw [hread, Option.map_some, Int.toNat_of_nonneg hyear.1]

theorem fraction?_padded (hwidth : 0 < width) (hnine : width ≤ 9) (hn : n < 10 ^ width) :
    fraction? ('.' :: padded width n ++ ['Z']) = some (n * 10 ^ (9 - width), ['Z']) := by
  have hlength := length_padded hwidth hn
  have hends : ∀ c ∈ ['Z'].head?, c.isDigit = false := fun c hc => Option.some.inj hc ▸ rfl
  have hread := digits?_append (padded_ne_nil width n) (fun _ => isDigit_of_mem_padded)
    (hlength ▸ hnine) (.inr hends)
  rw [ofDigitChars_padded] at hread
  rw [List.cons_append, fraction?, hread, Option.map_some, List.length_append, hlength]
  simp

theorem fraction?_writeFraction {nano : Nat} (hnano : nano < 1000000000) :
    fraction? (writeFraction nano ++ ['Z']) = some (nano, ['Z']) := by
  rw [writeFraction]
  split_ifs with hzero hmilli hmicro
  · rw [hzero]
    rfl
  · have hcancel : nano / 1000000 * 10 ^ (9 - 3) = nano :=
      Nat.div_mul_cancel (Nat.dvd_of_mod_eq_zero hmilli)
    rw [fraction?_padded (by decide) (by decide) (by omega), hcancel]
  · have hcancel : nano / 1000 * 10 ^ (9 - 6) = nano :=
      Nat.div_mul_cancel (Nat.dvd_of_mod_eq_zero hmicro)
    rw [fraction?_padded (by decide) (by decide) (by omega), hcancel]
  · rw [fraction?_padded (by decide) (by decide) (by omega), Nat.sub_self, Nat.pow_zero,
      Nat.mul_one]

/-! ### The whole instant -/

/-- The local time is the time in UTC where there is no offset. -/
theorem ofLocal?_zero (t : Instant) :
    ofLocal? t.date t.hour t.minute t.second t.nano 0 = some t := by
  obtain ⟨hhour, hminute, hsecond, hnano⟩ := t.isTime
  have hminutes :
      ((t.hour * 60 + t.minute : Nat) : Int) % 1440 = (t.hour * 60 + t.minute : Nat) := by omega
  have hhours : (t.hour * 60 + t.minute) / 60 = t.hour := by omega
  have hrest : (t.hour * 60 + t.minute) % 60 = t.minute := by omega
  rw [ofLocal?, if_pos (by decide)]
  simp only [Int.sub_zero]
  rw [if_neg (by omega), if_neg (by omega)]
  simp only [hminutes, Int.toNat_natCast, hhours, hrest, Option.bind_eq_bind, Option.bind_some,
    dif_pos t.isTime]

theorem read?_writeChars {t : Instant} (hyear : 0 ≤ t.date.year ∧ t.date.year ≤ 9999) :
    read? t.writeChars = some t := by
  obtain ⟨hhour, hminute, hsecond, hnano⟩ := t.isTime
  obtain ⟨-, hmonth, hday⟩ := t.date.isDay
  have hdays : daysInMonth t.date.year t.date.month ≤ 31 := by
    rw [daysInMonth]
    split_ifs <;> omega
  have hdate : Date.of? t.date.year t.date.month t.date.day = some t.date := dif_pos t.date.isDay
  simp only [writeChars, List.append_assoc, List.cons_append]
  simp only [read?, year?_writeYear hyear, mark?_cons (show isBlank '-' = false by decide),
    mark?_cons (show isBlank ':' = false by decide),
    number?_padded (show 0 < 2 by decide) (show t.date.month < 10 ^ 2 by omega),
    number?_padded (show 0 < 2 by decide) (show t.date.day < 10 ^ 2 by omega),
    number?_padded (show 0 < 2 by decide) (show t.hour < 10 ^ 2 by omega),
    number?_padded (show 0 < 2 by decide) (show t.minute < 10 ^ 2 by omega),
    number?_padded (show 0 < 2 by decide) (show t.second < 10 ^ 2 by omega),
    hdate, fraction?_writeFraction hnano, Option.bind_eq_bind, Option.bind_some]
  -- the mark between date and time and the offset are letters that are looked at as they are
  have hoffset : offset? (skipBlank ['Z']) = some (0, []) := by decide
  rw [if_pos (.inl trivial), if_pos ⟨hhour, hminute⟩, hoffset, Option.bind_some]
  exact (if_pos (by decide)).trans (ofLocal?_zero t)

/-- **An instant is read from its written form** in the years that have no sign. -/
theorem ofText?_write {t : Instant} (hyear : 0 ≤ t.date.year ∧ t.date.year ≤ 9999) :
    ofText? t.write = some t := by
  rw [ofText?, write, String.toList_ofList, read?_writeChars hyear]

end MediaMonitor.Instant
