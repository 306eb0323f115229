/-!
# Dividing a text

The text before the first occurrence of a character and the text behind it; the texts between all
occurrences; the lines of a text.
-/

namespace MediaMonitor.Text

/-- The text before the first `c` and the text behind it, if there is one. -/
def splitFirst (c : Char) : List Char → Option (List Char × List Char)
  | [] => none
  | d :: rest =>
      if d = c then some ([], rest) else (splitFirst c rest).map (fun r => (d :: r.1, r.2))

/-- The two parts and the character between them make up the text. -/
theorem eq_append_of_splitFirst {c : Char} : ∀ {cs before after : List Char},
    splitFirst c cs = some (before, after) → cs = before ++ c :: after ∧ c ∉ before
  | [], _, _, h => by simp [splitFirst] at h
  | d :: rest, before, after, h => by
      rw [splitFirst] at h
      split at h
      · rename_i hd; cases h; simp [hd]
      · rename_i hd
        obtain ⟨r, hr, he⟩ := Option.map_eq_some_iff.mp h
        cases he
        have ih := eq_append_of_splitFirst hr
        exact ⟨by rw [ih.1]; rfl, by simpa [Ne.symm hd] using ih.2⟩

theorem splitFirst_append {c : Char} {before after : List Char} (h : c ∉ before) :
    splitFirst c (before ++ c :: after) = some (before, after) := by
  induction before with
  | nil => simp [splitFirst]
  | cons d before ih =>
      have hd : d ≠ c := fun hd => h (hd ▸ List.mem_cons_self)
      simp [splitFirst, hd, ih (fun hc => h (List.mem_cons_of_mem _ hc))]

/-- A text is divided at the first occurrence, if there is one. -/
theorem splitFirst_eq (c : Char) (cs : List Char) :
    splitFirst c cs =
      if c ∈ cs then some (cs.takeWhile (· ≠ c), (cs.dropWhile (· ≠ c)).drop 1) else none := by
  induction cs with
  | nil => rfl
  | cons d rest ih =>
      rw [splitFirst]
      by_cases hd : d = c
      · simp [hd]
      · rw [if_neg hd, ih, List.takeWhile_cons_of_pos (by simpa using hd),
          List.dropWhile_cons_of_pos (by simpa using hd)]
        by_cases hc : c ∈ rest
        · rw [if_pos hc, if_pos (List.mem_cons_of_mem _ hc)]; rfl
        · rw [if_neg hc, if_neg (by simp [Ne.symm hd, hc])]; rfl

/-- The texts between the occurrences of a character. -/
def splitAll (c : Char) : List Char → List (List Char)
  | [] => [[]]
  | d :: rest =>
      if d = c then [] :: splitAll c rest
      else match splitAll c rest with
        | [] => [[d]]
        | part :: parts => (d :: part) :: parts

theorem splitAll_of_not_mem {c : Char} {part : List Char} (h : c ∉ part) :
    splitAll c part = [part] := by
  induction part with
  | nil => rfl
  | cons d part ih =>
      obtain ⟨hd, hpart⟩ := not_or.mp (mt List.mem_cons.mpr h)
      rw [splitAll, if_neg (Ne.symm hd), ih hpart]

theorem splitAll_append {c : Char} {part : List Char} (h : c ∉ part) (rest : List Char) :
    splitAll c (part ++ c :: rest) = part :: splitAll c rest := by
  induction part with
  | nil => exact if_pos rfl
  | cons d part ih =>
      obtain ⟨hd, hpart⟩ := not_or.mp (mt List.mem_cons.mpr h)
      rw [List.cons_append, splitAll, if_neg (Ne.symm hd), ih hpart]

/-- Texts that were put together with a character between them are found again, if none of them
holds it. -/
theorem splitAll_intercalate {c : Char} : ∀ {parts : List (List Char)}, parts ≠ [] →
    (∀ part ∈ parts, c ∉ part) → splitAll c ([c].intercalate parts) = parts
  | [part], _, h => by
      rw [List.intercalate_singleton, splitAll_of_not_mem (h part List.mem_cons_self)]
  | part :: next :: parts, _, h => by
      have hrest := List.cons_ne_nil next parts
      have ih := splitAll_intercalate hrest (fun p hp => h p (List.mem_cons_of_mem _ hp))
      rw [List.intercalate_cons_of_ne_nil hrest, List.append_assoc, List.singleton_append,
        splitAll_append (h part List.mem_cons_self), ih]

/-- A line without the carriage return at its end. -/
def dropReturn (cs : List Char) : List Char :=
  if cs.getLast? = some '\r' then cs.dropLast else cs

/-- The lines of a text that ends in a line feed or is taken to. -/
def lines (cs : List Char) : List (List Char) := (splitAll '\n' cs).map dropReturn

example : lines "a\r\n\nb".toList = ["a".toList, [], "b".toList] := by decide

end MediaMonitor.Text
