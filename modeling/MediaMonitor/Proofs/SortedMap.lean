import Mathlib.Data.List.Perm.Basic
import MediaMonitor.SortedMap

/-!
# A sorted map is made of its entries

Bindings of distinct keys do not meet, so the map that makes them has just these entries
(`perm_ofList`); and since entries stand in one order only, a map is made again from its own entries
in whatever order they come (`ofList_of_perm`).  Maps in which every look-up finds the same are
equal (`eq_of_find?`).
-/

namespace MediaMonitor.SortedMap

variable {κ : Type u} {α : Type v} [DecidableEq κ] [LT κ] [DecidableLT κ]

/-- A key that was not bound becomes one more entry. -/
theorem perm_insertEntry {k : κ} (a : α) {l : List (κ × α)} (hk : ∀ e ∈ l, e.1 ≠ k) :
    (insertEntry k a l).Perm ((k, a) :: l) := by
  induction l with
  | nil => exact .refl _
  | cons e l ih =>
      obtain ⟨he, hl⟩ := List.forall_mem_cons.mp hk
      rw [insertEntry, if_neg he]
      split
      · exact .refl _
      · exact ((ih hl).cons e).trans (.swap (k, a) e l)

omit [DecidableEq κ] [DecidableLT κ] in
theorem eq_of_entries {m n : SortedMap κ α} (h : m.entries = n.entries) : m = n := by
  cases m
  cases n
  cases h
  rfl

variable [LE κ] [Std.IsLinearOrder κ] [Std.LawfulOrderLT κ]

theorem perm_foldl_insert {l : List (κ × α)} {m : SortedMap κ α}
    (hnodup : (l.map Prod.fst).Nodup) (hnew : ∀ e ∈ l, ∀ i ∈ m.entries, i.1 ≠ e.1) :
    (l.foldl (fun m e => m.insert e.1 e.2) m).entries.Perm (l ++ m.entries) := by
  induction l generalizing m with
  | nil => exact .refl _
  | cons e l ih =>
      obtain ⟨he, hl⟩ := List.nodup_cons.mp hnodup
      obtain ⟨hfirst, hrest⟩ := List.forall_mem_cons.mp hnew
      have hinsert := perm_insertEntry e.2 hfirst
      have hnext : ∀ d ∈ l, ∀ i ∈ (m.insert e.1 e.2).entries, i.1 ≠ d.1 := by
        intro d hd i hi
        rcases List.mem_cons.mp (hinsert.mem_iff.mp hi) with rfl | hi
        · rintro (heq : e.1 = d.1)
          exact he (heq ▸ List.mem_map_of_mem hd)
        · exact hrest d hd i hi
      exact (ih hl hnext).trans ((hinsert.append_left l).trans List.perm_middle)

/-- A map of bindings of distinct keys has these bindings for its entries. -/
theorem perm_ofList {l : List (κ × α)} (hnodup : (l.map Prod.fst).Nodup) :
    (ofList l).entries.Perm l := by
  have hperm := perm_foldl_insert (m := ∅) hnodup (fun _ _ _ hi => nomatch hi)
  rwa [show (∅ : SortedMap κ α).entries = [] from rfl, List.append_nil] at hperm

/-- **A map is made again from its entries**, in whatever order. -/
theorem ofList_of_perm {l : List (κ × α)} {m : SortedMap κ α} (hperm : l.Perm m.entries) :
    ofList l = m := by
  have hkeys : m.keys.Nodup := m.pairwise_keys.imp Std.ne_of_lt
  have hnodup : (l.map Prod.fst).Nodup := (hperm.map Prod.fst).nodup_iff.mpr hkeys
  refine eq_of_entries (List.Perm.eq_of_pairwise ?_ (ofList l).sorted m.sorted
    ((perm_ofList hnodup).trans hperm))
  exact fun a b _ _ hab hba => absurd hba (Std.not_lt.mpr (Std.le_of_lt hab))

/-! ### Look-ups -/

omit [DecidableLT κ] in
theorem mem_entries {m : SortedMap κ α} {k : κ} {a : α} :
    (k, a) ∈ m.entries ↔ m.find? k = some a := by
  constructor
  · intro hmem
    cases hfind : m.find? k with
    | none => exact absurd rfl (find?_eq_none.mp hfind _ hmem)
    | some b =>
        obtain ⟨pre, post, hentries, hne⟩ := split_of_find? hfind
        rw [hentries, List.mem_append, List.mem_cons] at hmem
        rcases hmem with hmem | heq | hmem
        · exact absurd rfl (hne _ (List.mem_append_left _ hmem))
        · rw [(Prod.mk.inj heq).2]
        · exact absurd rfl (hne _ (List.mem_append_right _ hmem))
  · intro hfind
    obtain ⟨pre, post, hentries, -⟩ := split_of_find? hfind
    rw [hentries]
    exact List.mem_append_right _ List.mem_cons_self

omit [DecidableEq κ] [DecidableLT κ] [Std.IsLinearOrder κ] in
theorem nodup_entries (m : SortedMap κ α) : m.entries.Nodup :=
  m.sorted.imp fun hlt heq => Std.ne_of_lt hlt (congrArg Prod.fst heq)

/-- Maps in which every look-up finds the same are equal. -/
theorem eq_of_find? {m n : SortedMap κ α} (h : ∀ k, m.find? k = n.find? k) : m = n := by
  have hmem : ∀ e : κ × α, e ∈ m.entries ↔ e ∈ n.entries := by
    intro e
    rw [mem_entries, h, ← mem_entries]
  have hperm := (List.perm_ext_iff_of_nodup m.nodup_entries n.nodup_entries).mpr hmem
  rw [← ofList_of_perm hperm, ofList_of_perm (.refl _)]

/-- The entries whose keys and values have an image, with the image in place of the value. -/
def filterMap {β : Type w} (f : κ → α → Option β) (m : SortedMap κ α) : SortedMap κ β where
  entries := m.entries.filterMap (fun e => (f e.1 e.2).map (fun b => (e.1, b)))
  sorted := by
    refine m.sorted.filterMap _ ?_
    intro d e hlt x hx y hy
    obtain ⟨b, -, rfl⟩ := Option.map_eq_some_iff.mp hx
    obtain ⟨c, -, rfl⟩ := Option.map_eq_some_iff.mp hy
    exact hlt

omit [DecidableLT κ] in
theorem find?_filterMap {β : Type w} (f : κ → α → Option β) (m : SortedMap κ α) (k : κ) :
    (m.filterMap f).find? k = (m.find? k).bind (f k) := by
  ext b
  rw [← mem_entries, filterMap, List.mem_filterMap, Option.bind_eq_some_iff]
  constructor
  · rintro ⟨⟨i, a⟩, hmem, hsome⟩
    obtain ⟨c, hc, heq⟩ := Option.map_eq_some_iff.mp hsome
    obtain ⟨rfl, rfl⟩ := Prod.mk.inj heq
    exact ⟨a, mem_entries.mp hmem, hc⟩
  · rintro ⟨a, hfind, hb⟩
    exact ⟨(k, a), mem_entries.mpr hfind, by rw [hb]; rfl⟩

omit [DecidableLT κ] in
theorem find?_filter (p : κ → α → Bool) (m : SortedMap κ α) (k : κ) :
    (m.filter p).find? k = (m.find? k).filter (p k) := by
  ext a
  rw [← mem_entries, filter, List.mem_filter, mem_entries, Option.filter_eq_some_iff]

end MediaMonitor.SortedMap
