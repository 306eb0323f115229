import Mathlib.Data.List.Basic
import MediaMonitor.Distinct

/-!
# Lists without repeated keys

Where the first element of each key is kept, the keys that are left are those of the list, each
once, where it came first (`map_distinctBy`).
-/

namespace MediaMonitor

variable {α κ : Type} [DecidableEq κ] {f : α → κ}

theorem map_distinctBy (f : α → κ) (seen : List κ) (l : List α) :
    (distinctBy f seen l).map f = ((l.map f).filter (fun k => k ∉ seen)).eraseDups := by
  induction l generalizing seen with
  | nil => rfl
  | cons a rest ih =>
      rw [distinctBy, List.map_cons]
      by_cases h : f a ∈ seen
      · rw [if_pos h, ih, List.filter_cons_of_neg (by simpa using h)]
      · rw [if_neg h, List.map_cons, ih, List.filter_cons_of_pos (by simpa using h),
          List.eraseDups_cons, List.filter_filter]
        have hp : (fun k => decide (k ∉ f a :: seen)) =
            (fun k => (!k == f a) && decide (k ∉ seen)) := by
          funext k
          by_cases hk : k = f a <;> simp [hk]
        rw [hp]

theorem map_distinctBy_nil (f : α → κ) (l : List α) :
    (distinctBy f [] l).map f = (l.map f).eraseDups := by
  rw [map_distinctBy, List.filter_eq_self.mpr (by simp)]

/-- A list without repetitions is left as it is. -/
theorem eraseDups_of_nodup {l : List κ} (h : l.Nodup) : l.eraseDups = l := by
  induction l with
  | nil => rfl
  | cons a rest ih =>
      obtain ⟨ha, hrest⟩ := List.nodup_cons.mp h
      have hall : ∀ b ∈ rest, (!b == a) = true := by
        intro b hb
        have hne : b ≠ a := fun heq => ha (heq ▸ hb)
        simpa using hne
      rw [List.eraseDups_cons, List.filter_eq_self.mpr hall, ih hrest]

/-- A list in which no key is repeated is left as it is. -/
theorem distinctBy_of_nodup {seen : List κ} {l : List α} (h : (l.map f).Nodup)
    (hseen : ∀ a ∈ l, f a ∉ seen) : distinctBy f seen l = l := by
  induction l generalizing seen with
  | nil => rfl
  | cons a rest ih =>
      obtain ⟨ha, hrest⟩ := List.nodup_cons.mp h
      rw [distinctBy, if_neg (hseen a List.mem_cons_self), ih hrest]
      intro b hb hmem
      rcases List.mem_cons.mp hmem with heq | hmem
      · exact ha (heq ▸ List.mem_map_of_mem hb)
      · exact hseen b (List.mem_cons_of_mem _ hb) hmem

/-- What is kept stays in its order. -/
theorem distinctBy_sublist (f : α → κ) (seen : List κ) (l : List α) :
    (distinctBy f seen l).Sublist l := by
  induction l generalizing seen with
  | nil => exact .slnil
  | cons a rest ih =>
      rw [distinctBy]
      split
      case isTrue => exact (ih seen).cons a
      case isFalse => exact (ih _).cons_cons a

/-- An element at the end is kept if its key is new. -/
theorem distinctBy_concat (f : α → κ) (seen : List κ) (l : List α) (a : α) :
    distinctBy f seen (l ++ [a]) =
      if f a ∈ seen ∨ f a ∈ l.map f then distinctBy f seen l else distinctBy f seen l ++ [a] := by
  induction l generalizing seen with
  | nil => by_cases h : f a ∈ seen <;> simp [distinctBy, h]
  | cons b rest ih =>
      rw [List.cons_append, distinctBy, distinctBy, ih, ih]
      by_cases hb : f b ∈ seen
      · have hkey : f a = f b → f a ∈ seen := fun heq => heq ▸ hb
        simp only [if_pos hb, List.map_cons, List.mem_cons]
        grind
      · simp only [if_neg hb, List.map_cons, List.mem_cons]
        grind

/-- Of the elements with one key, the first is kept. -/
theorem find?_of_mem_distinctBy {seen : List κ} {l : List α} {a : α} (h : a ∈ distinctBy f seen l) :
    f a ∉ seen ∧ l.find? (fun b => f b = f a) = some a := by
  induction l generalizing seen with
  | nil => cases h
  | cons first rest ih =>
      rw [distinctBy] at h
      split at h
      case isTrue hseen =>
        obtain ⟨ha, hfind⟩ := ih h
        have hne : f first ≠ f a := fun he => ha (he ▸ hseen)
        exact ⟨ha, by rw [List.find?_cons_of_neg (by simpa using hne), hfind]⟩
      case isFalse hseen =>
        rcases List.mem_cons.mp h with rfl | h
        · exact ⟨hseen, List.find?_cons_of_pos (by simp)⟩
        · obtain ⟨ha, hfind⟩ := ih h
          rw [List.mem_cons, not_or] at ha
          exact ⟨ha.2, by rw [List.find?_cons_of_neg (by simpa using Ne.symm ha.1), hfind]⟩

/-- No key is left twice. -/
theorem nodup_map_distinctBy (f : α → κ) (seen : List κ) (l : List α) :
    ((distinctBy f seen l).map f).Nodup := by
  induction l generalizing seen with
  | nil => exact .nil
  | cons a rest ih =>
      rw [distinctBy]
      split
      case isTrue => exact ih seen
      case isFalse =>
        rw [List.map_cons, List.nodup_cons]
        refine ⟨fun hmem => ?_, ih _⟩
        obtain ⟨b, hb, heq⟩ := List.mem_map.mp hmem
        exact (find?_of_mem_distinctBy hb).1 (heq ▸ List.mem_cons_self)

theorem nodup_eraseDups (l : List κ) : l.eraseDups.Nodup := by
  have hnodup := nodup_map_distinctBy id [] l
  rwa [map_distinctBy_nil, List.map_id] at hnodup

end MediaMonitor
