import Mathlib.Data.List.Forall2
import Mathlib.Data.List.Pairwise
import MediaMonitor.Proofs.Json.Record
import MediaMonitor.Proofs.Traversal

/-!
# Other spellings of a value

A value that is made of records can be written in other ways: with the members of an object in
another order, with further members that are no fields, without a member that is null, and with a
member under another name of its field (`Respelled`).  It can also be spoilt, by a second member for
one field (`Doubled`).  A decoder is `Tolerant` of a shape when it reads the same from every other
spelling, and nothing from what is spoilt; decoders of lists, of maps and of records are, if those
of the elements, values and fields are (`Tolerant.list`, `Tolerant.map`, `tolerant_record`).
-/

namespace MediaMonitor.Json

/-! ### Shapes and spellings -/

/-- Where a value has records in it. -/
inductive Shape where
  /-- No part of the value is a record. -/
  | plain
  | list (element : Shape)
  | map (value : Shape)
  /-- A record with these fields, in the order of their declaration. -/
  | record (fields : List (FieldNames × Shape))

/-- The second value is another spelling of the first, which has the given shape. -/
inductive Respelled : Shape → Json → Json → Prop where
  | refl (s : Shape) (j : Json) : Respelled s j j
  | trans {s : Shape} {i j k : Json} (h : Respelled s i j) (h' : Respelled s j k) :
      Respelled s i k
  /-- The members of a record may come in any order. -/
  | reordered {fields : List (FieldNames × Shape)} {ms ms' : List (String × Json)}
      (h : ms.Perm ms') : Respelled (.record fields) (.object ms) (.object ms')
  /-- A record may have any members that are no fields of it. -/
  | extended {fields : List (FieldNames × Shape)} (ms : List (String × Json))
      {more : List (String × Json)} (h : ∀ m ∈ more, ∀ f ∈ fields, m.1 ∉ f.1) :
      Respelled (.record fields) (.object ms) (.object (ms ++ more))
  /-- A member that is null may be left out of a record. -/
  | dropped (fields : List (FieldNames × Shape)) (name : String) (ms : List (String × Json)) :
      Respelled (.record fields) (.object ((name, .null) :: ms)) (.object ms)
  /-- A member may stand under another name of its field. -/
  | renamed {fields : List (FieldNames × Shape)} {f : FieldNames × Shape} {name name' : String}
      (hf : f ∈ fields) (h : name ∈ f.1) (h' : name' ∈ f.1) (j : Json)
      (ms : List (String × Json)) :
      Respelled (.record fields) (.object ((name, j) :: ms)) (.object ((name', j) :: ms))
  /-- The value of a field may be spelt in another way. -/
  | member {fields : List (FieldNames × Shape)} {f : FieldNames × Shape} {name : String}
      {j j' : Json} (hf : f ∈ fields) (h : name ∈ f.1) (hj : Respelled f.2 j j')
      (ms : List (String × Json)) :
      Respelled (.record fields) (.object ((name, j) :: ms)) (.object ((name, j') :: ms))
  /-- So may the value of a field in a record that is written as an array. -/
  | place {fields : List (FieldNames × Shape)} {f : FieldNames × Shape} {j j' : Json}
      {before : List Json} (hf : fields[before.length]? = some f) (hj : Respelled f.2 j j')
      (after : List Json) :
      Respelled (.record fields) (.array (before ++ j :: after)) (.array (before ++ j' :: after))
  | element {s : Shape} {j j' : Json} (hj : Respelled s j j') (before after : List Json) :
      Respelled (.list s) (.array (before ++ j :: after)) (.array (before ++ j' :: after))
  | value {s : Shape} {j j' : Json} (hj : Respelled s j j') (name : String)
      (before after : List (String × Json)) :
      Respelled (.map s) (.object (before ++ (name, j) :: after))
        (.object (before ++ (name, j') :: after))

/-- A record in the value has two members for one field. -/
inductive Doubled : Shape → Json → Prop where
  | field {fields : List (FieldNames × Shape)} {f : FieldNames × Shape} {name name' : String}
      {j j' : Json} {ms rest : List (String × Json)} (hf : f ∈ fields) (h : name ∈ f.1)
      (h' : name' ∈ f.1) (hms : ms.Perm ((name, j) :: (name', j') :: rest)) :
      Doubled (.record fields) (.object ms)
  | member {fields : List (FieldNames × Shape)} {f : FieldNames × Shape} {name : String}
      {j : Json} {ms : List (String × Json)} (hf : f ∈ fields) (h : name ∈ f.1)
      (hm : (name, j) ∈ ms) (hj : Doubled f.2 j) : Doubled (.record fields) (.object ms)
  | place {fields : List (FieldNames × Shape)} {f : FieldNames × Shape} {j : Json}
      {items : List Json} {i : Nat} (hf : fields[i]? = some f) (hi : items[i]? = some j)
      (hj : Doubled f.2 j) : Doubled (.record fields) (.array items)
  | element {s : Shape} {j : Json} {items : List Json} (hm : j ∈ items) (hj : Doubled s j) :
      Doubled (.list s) (.array items)
  | value {s : Shape} {name : String} {j : Json} {ms : List (String × Json)}
      (hm : (name, j) ∈ ms) (hj : Doubled s j) : Doubled (.map s) (.object ms)

/-- A decoder of values of a shape reads the same from every spelling of a value, and nothing when a
record in it has two members for one field.  Null is not one of the values. -/
structure Tolerant {α : Type} (s : Shape) (decode? : Json → Option α) : Prop where
  respelled : ∀ ⦃j j' : Json⦄, Respelled s j j' → ∀ v, decode? j = some v → decode? j' = some v
  doubled : ∀ ⦃j : Json⦄, Doubled s j → decode? j = none
  null : decode? .null = none

/-- Null has no other spelling. -/
theorem Respelled.eq_null {s : Shape} {j j' : Json} (h : Respelled s j j') (hj : j = .null) :
    j' = .null := by
  induction h with
  | refl => exact hj
  | trans _ _ ih ih' => exact ih' (ih hj)
  | reordered | extended | dropped | renamed | member | place | element | value => cases hj

theorem Doubled.ne_null {s : Shape} {j : Json} (h : Doubled s j) : j ≠ .null := by
  rintro rfl
  cases h

theorem Respelled.eq_of_plain {s : Shape} {j j' : Json} (h : Respelled s j j')
    (hs : s = .plain) : j' = j := by
  induction h with
  | refl => rfl
  | trans _ _ ih ih' => exact (ih' hs).trans (ih hs)
  | reordered | extended | dropped | renamed | member | place | element | value => cases hs

theorem tolerant_plain {α : Type} {decode? : Json → Option α} (h : decode? .null = none) :
    Tolerant .plain decode? where
  respelled := fun _ _ hj _ hv => (hj.eq_of_plain rfl).symm ▸ hv
  doubled := fun _ hj => nomatch hj
  null := h

/-- What is made of the value that is read makes no difference. -/
theorem Tolerant.made {α β : Type} {s : Shape} {decode? : Json → Option α}
    (h : Tolerant s decode?) (make : α → β) : Tolerant s (fun j => (decode? j).map make) where
  respelled := by
    intro j j' hj v hv
    obtain ⟨a, ha, rfl⟩ := Option.map_eq_some_iff.mp hv
    exact Option.map_eq_some_iff.mpr ⟨a, h.respelled hj a ha, rfl⟩
  doubled := fun _ hj => Option.map_eq_none_iff.mpr (h.doubled hj)
  null := Option.map_eq_none_iff.mpr h.null

/-! ### Lists and maps -/

variable {α : Type} {s : Shape} {decode? : Json → Option α}

theorem Tolerant.list (h : Tolerant s decode?) : Tolerant (.list s) (list? decode?) where
  respelled := by
    intro j j' hj
    generalize hs : Shape.list s = t at hj
    induction hj with
    | refl => exact fun _ hv => hv
    | trans _ _ ih ih' => exact fun v hv => ih' hs v (ih hs v hv)
    | element hj before after =>
        cases hs
        exact fun v hv => mapM_replace (h.respelled hj) hv
    | reordered | extended | dropped | renamed | member | place | value => cases hs
  doubled := by
    intro j hj
    cases hj with
    | element hm hj => exact mapM_eq_none_iff.mpr ⟨_, hm, h.doubled hj⟩
  null := rfl

theorem Tolerant.map (h : Tolerant s decode?) : Tolerant (.map s) (map? decode?) where
  respelled := by
    intro j j' hj
    generalize hs : Shape.map s = t at hj
    induction hj with
    | refl => exact fun _ hv => hv
    | trans _ _ ih ih' => exact fun v hv => ih' hs v (ih hs v hv)
    | @value _ j j' hj name before after =>
        cases hs
        intro v hv
        obtain ⟨entries, hentries, rfl⟩ := Option.map_eq_some_iff.mp hv
        refine Option.map_eq_some_iff.mpr ⟨entries, mapM_replace ?_ hentries, rfl⟩
        exact (h.made (name, ·)).respelled hj
    | reordered | extended | dropped | renamed | member | place | element => cases hs
  doubled := by
    intro j hj
    cases hj with
    | value hm hj =>
        exact Option.map_eq_none_iff.mpr
          (mapM_eq_none_iff.mpr ⟨_, hm, (h.made _).doubled hj⟩)
  null := rfl

/-! ### Fields -/

/-- What stands for a field, and what stands for it in another spelling. -/
inductive SlotRespelled (s : Shape) : Option Json → Option Json → Prop where
  | same (o : Option Json) : SlotRespelled s o o
  | dropped : SlotRespelled s (some .null) none
  | value {j j' : Json} (h : Respelled s j j') : SlotRespelled s (some j) (some j')

/-- What is demanded of a field does not depend on its spelling, and is not met by what is
spoilt. -/
structure SlotTolerant (s : Shape) (demand : Option Json → Prop) : Prop where
  respelled : ∀ ⦃o o' : Option Json⦄, SlotRespelled s o o' → demand o → demand o'
  doubled : ∀ ⦃j : Json⦄, Doubled s j → ¬ demand (some j)

theorem Tolerant.required (h : Tolerant s decode?) (a : α) :
    SlotTolerant s (fun o => required decode? o = some a) where
  respelled := by
    rintro _ _ (_ | _ | hj) ho
    · exact ho
    · exact absurd (ho.symm.trans h.null) (by simp)
    · exact h.respelled hj a ho
  doubled := fun _ hj ho => absurd (ho.symm.trans (h.doubled hj)) (by simp)

theorem Tolerant.withDefault (h : Tolerant s decode?) (default a : α) :
    SlotTolerant s (fun o => withDefault default decode? o = some a) where
  respelled := by
    rintro _ _ (_ | _ | hj) ho
    · exact ho
    · exact absurd (ho.symm.trans h.null) (by simp)
    · exact h.respelled hj a ho
  doubled := fun _ hj ho => absurd (ho.symm.trans (h.doubled hj)) (by simp)

theorem Tolerant.optional (h : Tolerant s decode?) (a : Option α) :
    SlotTolerant s (fun o => optional decode? o = some a) where
  respelled := by
    rintro _ _ (_ | _ | @⟨j, j', hj⟩) ho
    · exact ho
    · exact ho
    · by_cases hnull : j = .null
      · rw [hj.eq_null hnull]
        rwa [hnull] at ho
      · rw [optional_of_ne_null hnull] at ho
        obtain ⟨b, hb, rfl⟩ := Option.map_eq_some_iff.mp ho
        have hb' := h.respelled hj b hb
        have hnull' : j' ≠ .null := by
          rintro rfl
          exact absurd (hb'.symm.trans h.null) (by simp)
        rw [optional_of_ne_null hnull', hb', Option.map_some]
  doubled := by
    intro j hj ho
    rw [optional_of_ne_null hj.ne_null, h.doubled hj] at ho
    cases ho

/-! ### Members -/

section
variable {ms ms' : List (String × Json)} {names : FieldNames} {m : String × Json}
  {o : Option Json}

theorem field?_perm (h : ms.Perm ms') (names : FieldNames) :
    field? ms names = field? ms' names := by
  have hfilter := h.filter (fun m => names.contains m.1)
  rw [field?, field?]
  generalize ms.filter _ = l at hfilter
  generalize ms'.filter _ = l' at hfilter
  rcases l with _ | ⟨m, _ | ⟨n, l⟩⟩
  · rw [List.nil_perm.mp hfilter]
  · rw [List.singleton_perm.mp hfilter]
  · have hlength := hfilter.length_eq
    rcases l' with _ | ⟨m', _ | ⟨n', l'⟩⟩
    · simp at hlength
    · simp at hlength
    · rfl

theorem field?_of_forall_not_mem (h : ∀ m ∈ ms, m.1 ∉ names) : field? ms names = some none := by
  have hfilter : ms.filter (fun m => names.contains m.1) = [] := by simpa using h
  rw [field?, hfilter]

/-- Members that are no such field do not count. -/
theorem field?_append (h : ∀ m ∈ ms', m.1 ∉ names) :
    field? (ms ++ ms') names = field? ms names := by
  have hfilter : ms'.filter (fun m => names.contains m.1) = [] := by simpa using h
  rw [field?, field?, List.filter_append, hfilter, List.append_nil]

/-- A member that stands for a field is the only one. -/
theorem field?_cons_eq_some_iff (hm : m.1 ∈ names) :
    field? (m :: ms) names = some o ↔ o = some m.2 ∧ ∀ i ∈ ms, i.1 ∉ names := by
  constructor
  · intro h
    rw [field?, List.filter_cons_of_pos (by simpa using hm)] at h
    cases hfilter : ms.filter (fun i => names.contains i.1) with
    | nil =>
        rw [hfilter] at h
        exact ⟨(Option.some.inj h).symm, by simpa using hfilter⟩
    | cons i l =>
        rw [hfilter] at h
        cases h
  · rintro ⟨rfl, hms⟩
    exact field?_cons_self hm hms

theorem eq_of_field? (hmem : m ∈ ms) (hm : m.1 ∈ names) (h : field? ms names = some o) :
    o = some m.2 := by
  obtain ⟨before, after, rfl⟩ := List.append_of_mem hmem
  rw [field?_perm List.perm_middle] at h
  exact ((field?_cons_eq_some_iff hm).mp h).1

end

/-! ### Records -/

section
variable {fields : List (FieldNames × Shape)} {demands : List (Option Json → Prop)}
  {ms ms' : List (String × Json)}

/-- What stands for each field meets the demand on it. -/
abbrev AllMet (demands : List (Option Json → Prop)) (slots : List (Option Json)) : Prop :=
  List.Forall₂ (fun p o => p o) demands slots

/-- What stands for the fields of a record meets these demands. -/
def Meets (layout : List FieldNames) (demands : List (Option Json → Prop)) (j : Json) : Prop :=
  ∃ slots, fields? layout j = some slots ∧ AllMet demands slots

/-- The demands are such as do not depend on the spelling of the fields. -/
abbrev AllTolerant (fields : List (FieldNames × Shape))
    (demands : List (Option Json → Prop)) : Prop :=
  List.Forall₂ (fun f p => SlotTolerant f.2 p) fields demands

theorem meets_object_nil :
    Meets (([] : List (FieldNames × Shape)).map Prod.fst) [] (.object ms) := ⟨[], rfl, .nil⟩

theorem meets_object_cons_iff {f : FieldNames × Shape} {p : Option Json → Prop} :
    Meets ((f :: fields).map Prod.fst) (p :: demands) (.object ms) ↔
      (∃ o, field? ms f.1 = some o ∧ p o) ∧
        Meets (fields.map Prod.fst) demands (.object ms) := by
  simp only [Meets, fields?, List.map_cons, List.mapM_cons, Option.bind_eq_bind,
    Option.bind_eq_some_iff, Option.pure_def, Option.some.injEq]
  constructor
  · rintro ⟨_, ⟨o, ho, slots, hslots, rfl⟩, _ | ⟨hp, hps⟩⟩
    exact ⟨⟨o, ho, hp⟩, slots, hslots, hps⟩
  · rintro ⟨⟨o, ho, hp⟩, slots, hslots, hps⟩
    exact ⟨_, ⟨o, ho, slots, hslots, rfl⟩, .cons hp hps⟩

/-- Every field that has something standing for it still has, but for its spelling. -/
def KeepsFields (fields : List (FieldNames × Shape)) (ms ms' : List (String × Json)) : Prop :=
  ∀ f ∈ fields, ∀ o, field? ms f.1 = some o →
    ∃ o', field? ms' f.1 = some o' ∧ SlotRespelled f.2 o o'

/-- When every field keeps what stands for it but for its spelling, the demands stay met. -/
theorem Meets.object (hdemands : AllTolerant fields demands) (h : KeepsFields fields ms ms')
    (hmeets : Meets (fields.map Prod.fst) demands (.object ms)) :
    Meets (fields.map Prod.fst) demands (.object ms') := by
  induction hdemands with
  | nil => exact meets_object_nil
  | @cons f p fields demands hp _ ih =>
      obtain ⟨hf, hfields⟩ := List.forall_mem_cons.mp h
      obtain ⟨⟨o, ho, hpo⟩, hrest⟩ := meets_object_cons_iff.mp hmeets
      obtain ⟨o', ho', hspelling⟩ := hf o ho
      exact meets_object_cons_iff.mpr
        ⟨⟨o', ho', hp.respelled hspelling hpo⟩, ih hfields hrest⟩

/-- What meets the demands has something that meets its demand for each field. -/
theorem Meets.exists_field (hdemands : AllTolerant fields demands)
    (hmeets : Meets (fields.map Prod.fst) demands (.object ms)) {f : FieldNames × Shape}
    (hf : f ∈ fields) :
    ∃ o p, field? ms f.1 = some o ∧ SlotTolerant f.2 p ∧ p o := by
  induction hdemands with
  | nil => cases hf
  | cons hp _ ih =>
      obtain ⟨⟨o, ho, hpo⟩, hrest⟩ := meets_object_cons_iff.mp hmeets
      rcases List.mem_cons.mp hf with rfl | hf
      · exact ⟨o, _, ho, hp, hpo⟩
      · exact ih hrest hf

theorem meets_array_iff {layout : List FieldNames} {items : List Json} :
    Meets layout demands (.array items) ↔ items.length ≤ layout.length ∧
      AllMet demands (items.map some ++ List.replicate (layout.length - items.length) none) := by
  rw [Meets, fields?]
  split
  case isTrue hle => simp [hle]
  case isFalse hlt => simp [hlt]

/-- One place of an array may be spelt in another way. -/
theorem AllMet.replace (hdemands : AllTolerant fields demands) {pre post : List (Option Json)}
    {o o' : Option Json} {f : FieldNames × Shape} (hf : fields[pre.length]? = some f)
    (ho : SlotRespelled f.2 o o')
    (h : AllMet demands (pre ++ o :: post)) : AllMet demands (pre ++ o' :: post) := by
  induction hdemands generalizing pre with
  | nil => cases hf
  | cons hp _ ih =>
      cases pre with
      | nil =>
          obtain rfl := Option.some.inj hf
          rcases h with _ | ⟨hpo, hrest⟩
          exact .cons (hp.respelled ho hpo) hrest
      | cons o₁ pre =>
          rcases h with _ | ⟨hpo, hrest⟩
          exact .cons hpo (ih (by simpa using hf) hrest)

theorem Meets.place (hdemands : AllTolerant fields demands) {before after : List Json}
    {j j' : Json} {f : FieldNames × Shape} (hf : fields[before.length]? = some f)
    (hj : Respelled f.2 j j')
    (hmeets : Meets (fields.map Prod.fst) demands (.array (before ++ j :: after))) :
    Meets (fields.map Prod.fst) demands (.array (before ++ j' :: after)) := by
  rw [meets_array_iff] at hmeets ⊢
  simp only [List.length_append, List.length_cons, List.map_append, List.map_cons,
    List.append_assoc, List.cons_append] at hmeets ⊢
  exact ⟨hmeets.1, AllMet.replace hdemands (by simpa using hf) (.value hj) hmeets.2⟩

/-- What stands in a place meets the demand for it. -/
theorem exists_demand (hdemands : AllTolerant fields demands) {slots : List (Option Json)}
    (h : AllMet demands slots) {i : Nat} {f : FieldNames × Shape}
    {o : Option Json} (hf : fields[i]? = some f) (ho : slots[i]? = some o) :
    ∃ p, SlotTolerant f.2 p ∧ p o := by
  induction hdemands generalizing slots i with
  | nil => cases hf
  | cons hp _ ih =>
      rcases h with _ | ⟨hpo, hrest⟩
      cases i with
      | zero =>
          cases hf
          cases ho
          exact ⟨_, hp, hpo⟩
      | succ i => exact ih hrest hf ho

/-! ### Tolerance of records -/

theorem keepsFields_perm (h : ms.Perm ms') : KeepsFields fields ms ms' := fun f _ o ho =>
  ⟨o, (field?_perm h f.1).symm.trans ho, .same o⟩

theorem keepsFields_append (h : ∀ m ∈ ms', ∀ f ∈ fields, m.1 ∉ f.1) :
    KeepsFields fields ms (ms ++ ms') := fun f hf o ho =>
  ⟨o, (field?_append fun m hm => h m hm f hf).trans ho, .same o⟩

theorem keepsFields_null (name : String) : KeepsFields fields ((name, .null) :: ms) ms := by
  intro f _ o ho
  by_cases hname : name ∈ f.1
  · obtain ⟨rfl, hms⟩ := (field?_cons_eq_some_iff hname).mp ho
    exact ⟨none, field?_of_forall_not_mem hms, .dropped⟩
  · rw [field?_cons_other hname] at ho
    exact ⟨o, ho, .same o⟩

/-- A name belongs to one field. -/
theorem eq_of_mem_names (hnames : (fields.map Prod.fst).flatten.Nodup)
    {f g : FieldNames × Shape} (hf : f ∈ fields) (hg : g ∈ fields) {name : String}
    (h : name ∈ f.1) (h' : name ∈ g.1) : f = g := by
  have hdisjoint := List.pairwise_map.mp (List.nodup_flatten.mp hnames).2
  have hsymm : Std.Symm fun a b : FieldNames × Shape => List.Disjoint a.1 b.1 :=
    ⟨fun _ _ hab _ hb ha => hab ha hb⟩
  by_contra hne
  exact hdisjoint.forall hf hg hne h h'

theorem keepsFields_rename (hnames : (fields.map Prod.fst).flatten.Nodup)
    {f : FieldNames × Shape} (hf : f ∈ fields) {name name' : String} (h : name ∈ f.1)
    (h' : name' ∈ f.1) (j : Json) : KeepsFields fields ((name, j) :: ms) ((name', j) :: ms) := by
  intro g hg o ho
  by_cases hname : name ∈ g.1
  · obtain rfl := eq_of_mem_names hnames hf hg h hname
    have hms := (field?_cons_eq_some_iff (m := (name, j)) h).mp ho
    exact ⟨o, (field?_cons_eq_some_iff (m := (name', j)) h').mpr hms, .same o⟩
  · have hname' : name' ∉ g.1 := fun hg' => by
      obtain rfl := eq_of_mem_names hnames hf hg h' hg'
      exact hname h
    rw [field?_cons_other hname] at ho
    exact ⟨o, (field?_cons_other hname').trans ho, .same o⟩

theorem keepsFields_value (hnames : (fields.map Prod.fst).flatten.Nodup)
    {f : FieldNames × Shape} (hf : f ∈ fields) {name : String} (h : name ∈ f.1) {j j' : Json}
    (hj : Respelled f.2 j j') : KeepsFields fields ((name, j) :: ms) ((name, j') :: ms) := by
  intro g hg o ho
  by_cases hname : name ∈ g.1
  · obtain rfl := eq_of_mem_names hnames hf hg h hname
    obtain ⟨rfl, hms⟩ := (field?_cons_eq_some_iff hname).mp ho
    exact ⟨some j', (field?_cons_eq_some_iff hname).mpr ⟨rfl, hms⟩, .value hj⟩
  · rw [field?_cons_other hname] at ho
    exact ⟨o, (field?_cons_other hname).trans ho, .same o⟩

/-- The demands on a record stay met in another spelling of it. -/
theorem Meets.respelled (hnames : (fields.map Prod.fst).flatten.Nodup)
    (hdemands : AllTolerant fields demands) {j j' : Json}
    (hj : Respelled (.record fields) j j') (hmeets : Meets (fields.map Prod.fst) demands j) :
    Meets (fields.map Prod.fst) demands j' := by
  generalize hs : Shape.record fields = s at hj
  induction hj with
  | refl => exact hmeets
  | trans _ _ ih ih' => exact ih' (ih hmeets hs) hs
  | reordered h => cases hs; exact hmeets.object hdemands (keepsFields_perm h)
  | extended ms h => cases hs; exact hmeets.object hdemands (keepsFields_append h)
  | dropped _ name ms => cases hs; exact hmeets.object hdemands (keepsFields_null name)
  | renamed hf h h' j ms =>
      cases hs
      exact hmeets.object hdemands (keepsFields_rename hnames hf h h' j)
  | member hf h hj ms =>
      cases hs
      exact hmeets.object hdemands (keepsFields_value hnames hf h hj)
  | place hf hj after => cases hs; exact hmeets.place hdemands hf hj
  | element | value => cases hs

/-- The demands on a record are not met when something in it has two members for one field. -/
theorem not_meets_of_doubled (hdemands : AllTolerant fields demands) {j : Json}
    (hj : Doubled (.record fields) j) : ¬ Meets (fields.map Prod.fst) demands j := by
  intro hmeets
  cases hj with
  | field hf h h' hms =>
      obtain ⟨o, -, ho, -⟩ := hmeets.exists_field hdemands hf
      rw [field?_perm hms] at ho
      exact ((field?_cons_eq_some_iff h).mp ho).2 _ List.mem_cons_self h'
  | member hf h hm hj =>
      obtain ⟨o, p, ho, hp, hpo⟩ := hmeets.exists_field hdemands hf
      obtain rfl := eq_of_field? hm h ho
      exact hp.doubled hj hpo
  | place hf hi hj =>
      obtain ⟨-, hslots⟩ := meets_array_iff.mp hmeets
      obtain ⟨p, hp, hpo⟩ := exists_demand hdemands hslots hf (o := some _) (by
        rw [List.getElem?_append_left (by simpa using (List.getElem?_eq_some_iff.mp hi).1),
          List.getElem?_map, hi, Option.map_some])
      exact hp.doubled hj hpo

variable {α : Type} {build : List (Option Json) → Option α}

/-- What is built from the fields of a record is told by what it demands of them. -/
theorem bind_eq_some_iff_meets {layout : List FieldNames} {v : α}
    (h : ∀ slots, build slots = some v ↔ AllMet demands slots) {j : Json} :
    (fields? layout j).bind build = some v ↔ Meets layout demands j := by
  simp only [Meets, Option.bind_eq_some_iff, h]

/-- **Decoders of records are tolerant** when no name belongs to two fields, and what they build
from the fields is told by demands on them that do not depend on the spelling. -/
theorem tolerant_record (hnames : (fields.map Prod.fst).flatten.Nodup)
    (h : ∀ v, ∃ demands, AllTolerant fields demands ∧
      ∀ slots, build slots = some v ↔ AllMet demands slots) :
    Tolerant (.record fields) (fun j => (fields? (fields.map Prod.fst) j).bind build) where
  respelled := by
    intro j j' hj v hv
    obtain ⟨demands, hdemands, hbuild⟩ := h v
    have hmeets := (bind_eq_some_iff_meets hbuild).mp hv
    exact (bind_eq_some_iff_meets hbuild).mpr (hmeets.respelled hnames hdemands hj)
  doubled := by
    intro j hj
    by_contra hne
    obtain ⟨v, hv⟩ := Option.ne_none_iff_exists'.mp hne
    obtain ⟨demands, hdemands, hbuild⟩ := h v
    exact not_meets_of_doubled hdemands hj ((bind_eq_some_iff_meets hbuild).mp hv)
  null := rfl

end

end MediaMonitor.Json
