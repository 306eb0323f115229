import MediaMonitor.SortedMap

/-!
# Selections

The ids of the selected candidates, each once and in ascending order.
-/

namespace MediaMonitor

/-- A set of candidate ids. -/
structure Selection where
  members : SortedSet Int64
  deriving DecidableEq

namespace Selection

/-- The selection of nothing. -/
def empty : Selection := ⟨∅⟩

instance : Inhabited Selection := ⟨empty⟩

/-- The selected ids, ascending. -/
def ids (s : Selection) : List Int64 := s.members.keys

/-- The id is selected. -/
def contains (s : Selection) (id : Int64) : Bool := s.members.contains id

/-- Nothing is selected. -/
def isEmpty (s : Selection) : Bool := s.members.isEmpty

/-- The number of selected ids. -/
def size (s : Selection) : Nat := s.members.size

/-- Selects an id. -/
def select (s : Selection) (id : Int64) : Selection := ⟨s.members.insert id ()⟩

/-- Takes an id out. -/
def deselect (s : Selection) (id : Int64) : Selection := ⟨s.members.erase id⟩

/-- Selects an id, or takes it out when it is selected. -/
def toggle (s : Selection) (id : Int64) : Selection :=
  if s.contains id then s.deselect id else s.select id

/-- Selects each id of a list. -/
def selectAll (s : Selection) (l : List Int64) : Selection := l.foldl select s

/-- Keeps the ids that pass a test. -/
def retain (s : Selection) (keep : Int64 → Bool) : Selection :=
  ⟨s.members.filter (fun id _ => keep id)⟩

@[simp] theorem contains_empty (id : Int64) : empty.contains id = false := rfl

theorem contains_select (s : Selection) (k id : Int64) :
    (s.select k).contains id = (decide (k = id) || s.contains id) := by
  simp only [select, contains, SortedMap.contains, SortedMap.find?_insert]
  split <;> simp_all

theorem contains_deselect (s : Selection) (k id : Int64) :
    (s.deselect k).contains id = (!decide (k = id) && s.contains id) := by
  simp only [deselect, contains, SortedMap.contains, SortedMap.find?_erase]
  split <;> simp_all

theorem contains_toggle (s : Selection) (k id : Int64) :
    (s.toggle k).contains id = (if k = id then !s.contains id else s.contains id) := by
  rw [toggle]
  split <;> by_cases h : k = id <;> simp_all [contains_select, contains_deselect]

theorem contains_selectAll (s : Selection) (l : List Int64) (id : Int64) :
    (s.selectAll l).contains id = (decide (id ∈ l) || s.contains id) := by
  rw [selectAll]
  induction l generalizing s with
  | nil => simp
  | cons k rest ih =>
      rw [List.foldl_cons, ih, contains_select]
      by_cases h : k = id
      · simp [h]
      · simp [h, Ne.symm h]

theorem contains_retain (s : Selection) (keep : Int64 → Bool) (id : Int64) :
    (s.retain keep).contains id = (keep id && s.contains id) := by
  simp only [retain, contains, SortedMap.contains, SortedMap.filter, SortedMap.find?]
  cases h : keep id with
  | true => rw [SortedMap.lookup_filter _ _ (fun _ => h), Bool.true_and]
  | false => rw [SortedMap.lookup_filter_of_drop _ _ (fun _ => h)]; rfl

/-- The ids are those that are selected. -/
theorem mem_ids {s : Selection} {id : Int64} : id ∈ s.ids ↔ s.contains id = true :=
  SortedMap.mem_keys

/-- The ids ascend, so that none is there twice. -/
theorem pairwise_ids (s : Selection) : s.ids.Pairwise (· < ·) := s.members.pairwise_keys

theorem eq_empty_of_ids {s : Selection} (h : s.ids = []) : s = empty := by
  obtain ⟨⟨entries, sorted⟩⟩ := s
  cases List.map_eq_nil_iff.mp h
  rfl

theorem isEmpty_iff {s : Selection} : s.isEmpty = true ↔ s.ids = [] := by
  simp [isEmpty, ids, SortedMap.isEmpty, SortedMap.keys]

end Selection

end MediaMonitor
