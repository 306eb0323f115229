import Mathlib.Data.List.Forall2
import Mathlib.Data.List.Nodup
import MediaMonitor.Json.Record
import MediaMonitor.Proofs.Json.Legible

/-!
# Fields are read as they are written

An object that has each field of a record under its first name gives every field what stands there
(`fields?_object`), provided that no name belongs to two fields.  What a field is written as is read
back (`ReadBack`): texts, numbers of each width, lists, and values that may be missing.  A record
whose fields are read back is therefore read from its text (`ReadBack.ofText?`).
-/

namespace MediaMonitor.Json

/-! ### Finding the fields -/

variable {members : List (String × Json)} {layout : List FieldNames}

theorem field?_cons_self {m : String × Json} {names : FieldNames} (hm : m.1 ∈ names)
    (hmembers : ∀ i ∈ members, i.1 ∉ names) : field? (m :: members) names = some (some m.2) := by
  have hrest : members.filter (fun i => names.contains i.1) = [] := by
    simpa using hmembers
  rw [field?, List.filter_cons_of_pos (by simpa using hm), hrest]

theorem field?_cons_other {m : String × Json} {names : FieldNames} (hm : m.1 ∉ names) :
    field? (m :: members) names = field? members names := by
  rw [field?, List.filter_cons_of_neg (by simpa using hm), field?]

theorem key_mem_flatten (hkeys : layout.map List.head? = members.map (fun m => some m.1)) :
    ∀ m ∈ members, m.1 ∈ layout.flatten := by
  intro m hm
  have hkey : some m.1 ∈ layout.map List.head? := hkeys ▸ List.mem_map_of_mem hm
  obtain ⟨names, hnames, hhead⟩ := List.mem_map.mp hkey
  exact List.mem_flatten_of_mem hnames (List.mem_of_mem_head? hhead)

/-- In an object that has each field under its first name, each field is found. -/
theorem forall₂_field? (hnames : layout.flatten.Nodup)
    (hkeys : layout.map List.head? = members.map (fun m => some m.1)) :
    List.Forall₂ (fun names m => field? members names = some (some m.2)) layout members := by
  induction layout generalizing members with
  | nil =>
      obtain rfl := List.map_eq_nil_iff.mp hkeys.symm
      exact .nil
  | cons names layout ih =>
      obtain ⟨m, members, rfl⟩ : ∃ m ms, members = m :: ms := by
        cases members with
        | nil => cases hkeys
        | cons m ms => exact ⟨m, ms, rfl⟩
      obtain ⟨hkey, hkeys⟩ := List.cons.inj hkeys
      obtain ⟨-, hlayout, hdisjoint⟩ := List.nodup_append.mp hnames
      have hm : m.1 ∈ names := List.mem_of_mem_head? hkey
      have hothers : ∀ others ∈ layout, m.1 ∉ others := fun others hothers hin =>
        hdisjoint m.1 hm m.1 (List.mem_flatten_of_mem hothers hin) rfl
      refine .cons (field?_cons_self hm (fun i hi hin => ?_)) ?_
      · exact hdisjoint i.1 hin i.1 (key_mem_flatten hkeys i hi) rfl
      · refine ((List.forall₂_and_left _ _).mpr ⟨hothers, ih hlayout hkeys⟩).imp ?_
        rintro others i ⟨hi, hfound⟩
        rw [field?_cons_other hi, hfound]

/-- **The fields of an object are found** when each is under its first name and no two share one. -/
theorem fields?_object (hnames : layout.flatten.Nodup)
    (hkeys : layout.map List.head? = members.map (fun m => some m.1)) :
    fields? layout (.object members) = some (members.map (fun m => some m.2)) := by
  rw [fields?, mapM_of_forall₂ (forall₂_field? hnames hkeys)]

/-! ### Fields -/

/-- A value is read from what it is written as. -/
structure ReadBack (encode : α → Json) (decode? : Json → Option α) (a : α) : Prop where
  legible : Legible (encode a)
  decoded : decode? (encode a) = some a

variable {encode : α → Json} {decode? : Json → Option α}

/-- **What is read back is read from its text.** -/
theorem ReadBack.ofText? {a : α} (h : ReadBack encode decode? a) :
    (Json.ofText? (encode a).write).bind decode? = some a := by
  rw [ofText?_write h.legible, Option.bind_some, h.decoded]

theorem readBack_string (s : String) : ReadBack .string string? s := ⟨legible_string s, rfl⟩

theorem readBack_int64 (i : Int64) : ReadBack ofInt64 int64? i := by
  refine ⟨legible_integer _, ?_⟩
  rw [int64?, ofInt64, between?, if_pos ⟨i.minValue_le_toInt, i.toInt_le⟩, Option.map_some,
    Int64.ofInt_toInt]

theorem readBack_int32 (i : Int32) : ReadBack (fun i => .integer i.toInt) int32? i := by
  refine ⟨legible_integer _, ?_⟩
  rw [int32?, between?, if_pos ⟨i.minValue_le_toInt, i.toInt_le⟩, Option.map_some,
    Int32.ofInt_toInt]

theorem readBack_uint64 (n : UInt64) : ReadBack ofUInt64 uint64? n := by
  refine ⟨legible_integer _, ?_⟩
  have hn := n.toNat_lt_size
  rw [uint64?, ofUInt64, between?, if_pos ⟨by omega, by omega⟩, Option.map_some,
    Int.toNat_natCast, UInt64.ofNat_toNat]

/-- A list is read back if its elements are. -/
theorem readBack_list {l : List α} (h : ∀ a ∈ l, ReadBack encode decode? a) :
    ReadBack (ofList encode) (list? decode?) l where
  legible := legible_array (by simpa [List.forall_mem_map] using fun a ha => (h a ha).legible)
  decoded := by
    rw [ofList, list?, mapM_map (g := id) (fun a ha => (h a ha).decoded), List.map_id]

theorem optional_of_ne_null {j : Json} (hj : j ≠ .null) :
    optional decode? (some j) = (decode? j).map some := by
  cases j with
  | null => exact absurd rfl hj
  | _ => rfl

/-- What may be missing is read back if null is not one of the values. -/
theorem readBack_optional {o : Option α} (hnull : decode? .null = none)
    (h : ∀ a ∈ o, ReadBack encode decode? a) :
    ReadBack (ofOption encode) (fun j => optional decode? (some j)) o := by
  cases o with
  | none => exact ⟨legible_null, rfl⟩
  | some a =>
      obtain ⟨hlegible, hdecoded⟩ := h a rfl
      refine ⟨hlegible, ?_⟩
      have hwritten : encode a ≠ .null := fun h => by
        rw [h, hnull] at hdecoded
        cases hdecoded
      rw [ofOption, optional_of_ne_null hwritten, hdecoded, Option.map_some]

end MediaMonitor.Json
