import Mathlib.Data.List.Forall2

/-!
# Partial functions along a list

A list of values is decoded, and the details of an event are redacted, one after another: there is a
result when there is one for each element (`mapM_of_forall₂`), and none as soon as there is none for
one of them (`mapM_eq_none_iff`).
-/

namespace MediaMonitor

variable {f : α → Option β}

theorem mapM_of_forall₂ {g : γ → β} {as : List α} {cs : List γ}
    (h : List.Forall₂ (fun a c => f a = some (g c)) as cs) : as.mapM f = some (cs.map g) := by
  induction h with
  | nil => rfl
  | cons hfirst _ ih => simp [hfirst, ih]

theorem mapM_map {e : γ → α} {g : γ → β} {l : List γ} (h : ∀ c ∈ l, f (e c) = some (g c)) :
    (l.map e).mapM f = some (l.map g) :=
  mapM_of_forall₂ (List.forall₂_map_left_iff.mpr (List.forall₂_same.mpr h))

/-- Lists that have the same results side by side have the same result. -/
theorem mapM_congr_forall₂ {g : γ → Option β} {as : List α} {cs : List γ}
    (h : List.Forall₂ (fun a c => f a = g c) as cs) : as.mapM f = cs.mapM g := by
  induction h with
  | nil => rfl
  | cons hfirst _ ih => rw [List.mapM_cons, List.mapM_cons, hfirst, ih]

theorem mapM_eq_none_iff {l : List α} : l.mapM f = none ↔ ∃ a ∈ l, f a = none := by
  induction l with
  | nil => simp
  | cons a l ih =>
      cases ha : f a with
      | none => simp [ha]
      | some b => cases hl : l.mapM f <;> simp_all

/-- An element may be replaced by one that has its result. -/
theorem mapM_replace {a a' : α} {before after : List α} (h : ∀ b, f a = some b → f a' = some b)
    {bs : List β} (hl : (before ++ a :: after).mapM f = some bs) :
    (before ++ a' :: after).mapM f = some bs := by
  simp only [List.mapM_append, List.mapM_cons, Option.bind_eq_bind, Option.bind_eq_some_iff,
    Option.pure_def] at hl ⊢
  obtain ⟨front, hfront, rest, ⟨b, hb, hrest⟩, hbs⟩ := hl
  exact ⟨front, hfront, rest, ⟨b, h b hb, hrest⟩, hbs⟩

end MediaMonitor
