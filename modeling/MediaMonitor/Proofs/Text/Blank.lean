import Mathlib.Data.List.DropRight
import MediaMonitor.Text.Blank

/-!
# Trimmed text

Text that was trimmed has no white space at either end (`trimmed_trimChars`), and it is not changed
by trimming again (`trimChars_eq_self_iff`).
-/

namespace MediaMonitor.Text

/-- There is no white space at either end. -/
def Trimmed (cs : List Char) : Prop :=
  (∀ c ∈ cs.head?, isBlank c = false) ∧ ∀ c ∈ cs.getLast?, isBlank c = false

theorem head?_dropWhile (p : Char → Bool) (cs : List Char) :
    ∀ c ∈ (cs.dropWhile p).head?, p c = false := by
  intro c hc
  have hnot := List.head?_dropWhile_not p cs
  rwa [Option.mem_def.mp hc] at hnot

/-- What is dropped at the end leaves the beginning as it was. -/
theorem dropEndWhile_prefix (p : Char → Bool) (cs : List Char) : dropEndWhile p cs <+: cs :=
  List.rdropWhile_prefix p cs

theorem getLast?_dropEndWhile {p : Char → Bool} {cs : List Char} :
    ∀ c ∈ (dropEndWhile p cs).getLast?, p c = false := by
  rw [dropEndWhile, List.getLast?_reverse]
  exact head?_dropWhile p cs.reverse

theorem trimmed_trimChars (cs : List Char) : Trimmed (trimChars cs) := by
  refine ⟨fun c hc => ?_, getLast?_dropEndWhile⟩
  obtain ⟨rest, hrest⟩ := dropEndWhile_prefix isBlank (cs.dropWhile isBlank)
  refine head?_dropWhile isBlank cs c ?_
  rw [← hrest, ← trimChars, List.head?_append, Option.mem_def.mp hc]
  rfl

/-- What is dropped at the end passes the test. -/
theorem exists_dropEndWhile (p : Char → Bool) (cs : List Char) :
    ∃ dropped, cs = dropEndWhile p cs ++ dropped ∧ ∀ c ∈ dropped, p c = true := by
  refine ⟨(cs.reverse.takeWhile p).reverse, ?_, fun c hc => ?_⟩
  · rw [dropEndWhile, ← List.reverse_append, List.takeWhile_append_dropWhile, List.reverse_reverse]
  · exact List.mem_takeWhile_imp (List.mem_reverse.mp hc)

theorem dropEndWhile_append {p : Char → Bool} {dropped : List Char}
    (h : ∀ c ∈ dropped, p c = true) (cs : List Char) :
    dropEndWhile p (cs ++ dropped) = dropEndWhile p cs := by
  rw [dropEndWhile, List.reverse_append,
    List.dropWhile_append_of_pos fun c hc => h c (List.mem_reverse.mp hc), dropEndWhile]

theorem dropWhile_of_head? {p : Char → Bool} {cs : List Char}
    (h : ∀ c ∈ cs.head?, p c = false) : cs.dropWhile p = cs := by
  cases cs with
  | nil => rfl
  | cons c cs => exact List.dropWhile_cons_of_neg (by simp [h c rfl])

theorem dropEndWhile_of_getLast? {p : Char → Bool} {cs : List Char}
    (h : ∀ c ∈ cs.getLast?, p c = false) : dropEndWhile p cs = cs := by
  rw [← List.head?_reverse] at h
  rw [dropEndWhile, dropWhile_of_head? h, List.reverse_reverse]

theorem trimChars_infix (cs : List Char) : trimChars cs <:+: cs := by
  have hprefix := dropEndWhile_prefix isBlank (cs.dropWhile isBlank)
  exact hprefix.isInfix.trans (List.dropWhile_suffix _).isInfix

/-- Trimmed text is what trimming does not change. -/
theorem trimChars_eq_self_iff {cs : List Char} : trimChars cs = cs ↔ Trimmed cs := by
  refine ⟨fun h => h ▸ trimmed_trimChars cs, fun h => ?_⟩
  rw [trimChars, dropWhile_of_head? h.1, dropEndWhile_of_getLast? h.2]

/-- A text that starts with no white space is trimmed at its end only. -/
theorem head?_trimChars {c : Char} (hc : isBlank c = false) (cs : List Char) :
    (trimChars (c :: cs)).head? = some c := by
  have hstart : (c :: cs).dropWhile isBlank = c :: cs :=
    List.dropWhile_cons_of_neg (by simp [hc])
  rw [trimChars, hstart]
  have hne : dropEndWhile isBlank (c :: cs) ≠ [] := by
    intro hnil
    have hall := List.rdropWhile_eq_nil_iff.mp hnil c List.mem_cons_self
    rw [hc] at hall
    cases hall
  obtain ⟨d, ds, hds⟩ := List.exists_cons_of_ne_nil hne
  have hprefix := dropEndWhile_prefix isBlank (c :: cs)
  rw [hds] at hprefix ⊢
  rw [List.head?_cons, (List.cons_prefix_cons.mp hprefix).1]

end MediaMonitor.Text
