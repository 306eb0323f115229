/-!
# Sorted maps

A finite map is a list of entries whose keys ascend strictly.  Looking a key up, binding it and
unbinding it go through the list once; `find?_insert` and `find?_erase` say what a look-up finds
afterwards.
-/

namespace MediaMonitor

namespace SortedMap

variable {κ : Type u} {α : Type v} [DecidableEq κ]

/-- The value bound to `k` in a list of entries. -/
def lookup (k : κ) : List (κ × α) → Option α
  | [] => none
  | e :: rest => if e.1 = k then some e.2 else lookup k rest

theorem lookup_filter (p : κ × α → Bool) (k : κ) (hp : ∀ a, p (k, a) = true) :
    ∀ l : List (κ × α), lookup k (l.filter p) = lookup k l
  | [] => rfl
  | e :: rest => by
      have ih := lookup_filter p k hp rest
      by_cases h : e.1 = k
      · have he : p e = true := by have := hp e.2; rwa [← h] at this
        simp [List.filter_cons_of_pos he, lookup, h]
      · by_cases he : p e = true
        · simp [List.filter_cons_of_pos he, lookup, h, ih]
        · simp [List.filter_cons_of_neg he, lookup, h, ih]

theorem lookup_filter_of_drop (p : κ × α → Bool) (k : κ) (hp : ∀ a, p (k, a) = false) :
    ∀ l : List (κ × α), lookup k (l.filter p) = none
  | [] => rfl
  | e :: rest => by
      have ih := lookup_filter_of_drop p k hp rest
      by_cases he : p e = true
      · have h : e.1 ≠ k := fun h => by
          have := hp e.2; rw [← h] at this; rw [this] at he; exact Bool.noConfusion he
        simp [List.filter_cons_of_pos he, lookup, h, ih]
      · simp [List.filter_cons_of_neg he, ih]

theorem lookup_eq_none {k : κ} : ∀ {l : List (κ × α)},
    lookup k l = none ↔ ∀ e ∈ l, e.1 ≠ k
  | [] => by simp [lookup]
  | e :: rest => by
      have ih := lookup_eq_none (k := k) (l := rest)
      by_cases h : e.1 = k <;> simp [lookup, h, ih]

/-- Where the keys ascend, a key that is bound stands in one place. -/
theorem split_of_lookup [LT κ] [LE κ] [Std.IsLinearOrder κ] [Std.LawfulOrderLT κ] {k : κ} {a : α} :
    ∀ {l : List (κ × α)}, l.Pairwise (fun x y => x.1 < y.1) → lookup k l = some a →
      ∃ pre post, l = pre ++ (k, a) :: post ∧ ∀ e ∈ pre ++ post, e.1 ≠ k
  | [], _, h => by cases h
  | e :: rest, hl, h => by
      obtain ⟨he, hrest⟩ := List.pairwise_cons.mp hl
      rw [lookup] at h
      split at h
      case isTrue hk =>
        cases h
        cases hk
        exact ⟨[], rest, rfl, fun d hd => (Std.ne_of_lt (he d hd)).symm⟩
      case isFalse hk =>
        obtain ⟨pre, post, rfl, hne⟩ := split_of_lookup hrest h
        refine ⟨e :: pre, post, rfl, fun d hd => ?_⟩
        rcases List.mem_cons.mp hd with rfl | hd
        · exact hk
        · exact hne d hd

variable [LT κ] [DecidableLT κ]

/-- Binds `k` to `a`, in place of any former value, before the first greater key. -/
def insertEntry (k : κ) (a : α) : List (κ × α) → List (κ × α)
  | [] => [(k, a)]
  | e :: rest =>
      if k < e.1 then (k, a) :: e :: rest
      else if e.1 = k then (k, a) :: rest
      else e :: insertEntry k a rest

theorem mem_insertEntry {k : κ} {a : α} {e : κ × α} : ∀ {l : List (κ × α)},
    e ∈ insertEntry k a l → e = (k, a) ∨ e ∈ l
  | [], h => by simpa [insertEntry] using h
  | d :: rest, h => by
      rw [insertEntry] at h
      split at h
      · simpa using h
      · split at h
        · rcases List.mem_cons.mp h with h | h
          · exact .inl h
          · exact .inr (List.mem_cons_of_mem _ h)
        · rcases List.mem_cons.mp h with h | h
          · exact .inr (h ▸ List.mem_cons_self)
          · exact (mem_insertEntry h).imp_right (List.mem_cons_of_mem _)

theorem lookup_insertEntry (k i : κ) (a : α) : ∀ l : List (κ × α),
    lookup i (insertEntry k a l) = if k = i then some a else lookup i l
  | [] => by simp [insertEntry, lookup]
  | e :: rest => by
      have ih := lookup_insertEntry k i a rest
      rw [insertEntry]
      split
      · simp [lookup]
      · split
        · rename_i h; by_cases hk : k = i <;> simp_all [lookup]
        · rename_i hne
          by_cases h : e.1 = i
          · have : k ≠ i := fun hk => hne (h.trans hk.symm)
            simp [lookup, h, this]
          · simp [lookup, h, ih]

/-- A binding keeps the keys ascending. -/
theorem pairwise_insertEntry [LE κ] [Std.IsLinearOrder κ] [Std.LawfulOrderLT κ] {k : κ} {a : α} :
    ∀ {l : List (κ × α)}, l.Pairwise (fun x y => x.1 < y.1) →
      (insertEntry k a l).Pairwise (fun x y => x.1 < y.1)
  | [], _ => by simp [insertEntry]
  | d :: rest, h => by
      have hd := List.pairwise_cons.mp h
      rw [insertEntry]
      split
      · rename_i hk
        refine List.pairwise_cons.mpr ⟨fun e he => ?_, h⟩
        rcases List.mem_cons.mp he with rfl | he
        · exact hk
        · exact Std.lt_trans hk (hd.1 e he)
      · rename_i hk
        split
        · rename_i heq
          exact List.pairwise_cons.mpr ⟨fun e he => heq ▸ hd.1 e he, hd.2⟩
        · rename_i hne
          refine List.pairwise_cons.mpr ⟨fun e he => ?_, pairwise_insertEntry hd.2⟩
          rcases mem_insertEntry he with rfl | he
          · exact Std.lt_of_le_of_ne (Std.not_lt.mp hk) hne
          · exact hd.1 e he

end SortedMap

/-- A finite map, its entries in strictly ascending order of their keys. -/
structure SortedMap (κ : Type u) (α : Type v) [LT κ] where
  entries : List (κ × α)
  sorted : entries.Pairwise (fun a b => a.1 < b.1)

/-- A finite set, its members ascending. -/
abbrev SortedSet (κ : Type u) [LT κ] := SortedMap κ Unit

namespace SortedMap

variable {κ : Type u} {α : Type v} [LT κ]

instance [DecidableEq κ] [DecidableEq α] : DecidableEq (SortedMap κ α) := fun a b =>
  decidable_of_iff (a.entries = b.entries) <| by
    cases a; cases b; simp

/-- The map that binds nothing. -/
def empty : SortedMap κ α := ⟨[], .nil⟩

instance : EmptyCollection (SortedMap κ α) := ⟨empty⟩
instance : Inhabited (SortedMap κ α) := ⟨empty⟩

/-- The keys, ascending. -/
def keys (m : SortedMap κ α) : List κ := m.entries.map Prod.fst

/-- The values, in the order of their keys. -/
def values (m : SortedMap κ α) : List α := m.entries.map Prod.snd

/-- The number of keys. -/
def size (m : SortedMap κ α) : Nat := m.entries.length

/-- No key is bound. -/
def isEmpty (m : SortedMap κ α) : Bool := m.entries.isEmpty

/-- The keys ascend strictly. -/
theorem pairwise_keys (m : SortedMap κ α) : m.keys.Pairwise (· < ·) :=
  List.pairwise_map.mpr m.sorted

/-- The entries that pass a test. -/
def filter (p : κ → α → Bool) (m : SortedMap κ α) : SortedMap κ α :=
  ⟨m.entries.filter (fun e => p e.1 e.2), m.sorted.filter _⟩

variable [DecidableEq κ]

/-- The value bound to a key. -/
def find? (m : SortedMap κ α) (k : κ) : Option α := lookup k m.entries

/-- A value is bound to the key. -/
def contains (m : SortedMap κ α) (k : κ) : Bool := (m.find? k).isSome

/-- The map without the key. -/
def erase (m : SortedMap κ α) (k : κ) : SortedMap κ α := m.filter (fun i _ => i ≠ k)

@[simp] theorem find?_empty (k : κ) : (∅ : SortedMap κ α).find? k = none := rfl

theorem find?_erase (m : SortedMap κ α) (k i : κ) :
    (m.erase k).find? i = if k = i then none else m.find? i := by
  unfold erase filter find?
  split
  · subst_vars; exact lookup_filter_of_drop _ _ (by simp) _
  · rename_i h; exact lookup_filter _ _ (fun _ => by simp [Ne.symm h]) _

theorem find?_eq_none {m : SortedMap κ α} {k : κ} :
    m.find? k = none ↔ ∀ e ∈ m.entries, e.1 ≠ k :=
  lookup_eq_none

/-- The keys are those that are bound. -/
theorem mem_keys {m : SortedMap κ α} {k : κ} : k ∈ m.keys ↔ m.contains k = true := by
  rw [contains, Option.isSome_iff_ne_none, Ne, find?_eq_none]
  simp [keys]

/-- A key that is bound has one entry. -/
theorem split_of_find? [LE κ] [Std.IsLinearOrder κ] [Std.LawfulOrderLT κ]
    {m : SortedMap κ α} {k : κ} {a : α} (h : m.find? k = some a) :
    ∃ pre post, m.entries = pre ++ (k, a) :: post ∧ ∀ e ∈ pre ++ post, e.1 ≠ k :=
  split_of_lookup m.sorted h

variable [LE κ] [DecidableLT κ] [Std.IsLinearOrder κ] [Std.LawfulOrderLT κ]

/-- Binds `k` to `a`, in place of any former value. -/
def insert (m : SortedMap κ α) (k : κ) (a : α) : SortedMap κ α :=
  ⟨insertEntry k a m.entries, pairwise_insertEntry m.sorted⟩

/-- The map that makes the bindings of a list, one after another. -/
def ofList (l : List (κ × α)) : SortedMap κ α := l.foldl (fun m e => m.insert e.1 e.2) ∅

theorem find?_insert (m : SortedMap κ α) (k i : κ) (a : α) :
    (m.insert k a).find? i = if k = i then some a else m.find? i :=
  lookup_insertEntry k i a m.entries

end SortedMap

end MediaMonitor
