import Mathlib.Data.List.Forall2
import MediaMonitor.Log.Forwarder
import MediaMonitor.Proofs.Log.Redaction

/-!
# What a log entry does not tell

Two values of a field are indistinct when the field is a secret, or when both are mail addresses
with one first character; then they have the same redacted form (`Redaction.redact?_of_indistinct`).
Events of which all fields but the message are indistinct are accepted together, and their entries
differ in the message at most (`LogForwarder.entry?_of_indistinct`).  Fields may be repeated: the
last of one name stands, and a list of bindings is made into a map by inserting, which keeps the
entries of two maps side by side (`SortedMap.forall₂_ofList`).
-/

namespace MediaMonitor

namespace SortedMap

variable {κ : Type u} {α : Type v} {β : Type w} [DecidableEq κ] [LT κ] [DecidableLT κ]

/-- Two bindings of one key to values that stand in a relation that may depend on the key. -/
def Beside (R : κ → α → β → Prop) (x : κ × α) (y : κ × β) : Prop := x.1 = y.1 ∧ R x.1 x.2 y.2

variable {R : κ → α → β → Prop}

theorem forall₂_insertEntry {l : List (κ × α)} {l' : List (κ × β)}
    (h : List.Forall₂ (Beside R) l l') {k : κ} {a : α} {b : β} (hab : R k a b) :
    List.Forall₂ (Beside R) (insertEntry k a l) (insertEntry k b l') := by
  induction h with
  | nil => exact .cons ⟨rfl, hab⟩ .nil
  | @cons x y l l' hxy h ih =>
      obtain ⟨hkey, -⟩ := id hxy
      rw [insertEntry, insertEntry, ← hkey]
      split
      case isTrue => exact .cons ⟨rfl, hab⟩ (.cons hxy h)
      case isFalse =>
        split
        case isTrue => exact .cons ⟨rfl, hab⟩ h
        case isFalse => exact .cons hxy ih

variable [LE κ] [Std.IsLinearOrder κ] [Std.LawfulOrderLT κ]

/-- Bindings that stand beside each other are made into maps whose entries do. -/
theorem forall₂_ofList {l : List (κ × α)} {l' : List (κ × β)}
    (h : List.Forall₂ (Beside R) l l') :
    List.Forall₂ (Beside R) (ofList l).entries (ofList l').entries := by
  -- each step of the two folds inserts two bindings that stand beside each other
  suffices hfold : ∀ (m : SortedMap κ α) (m' : SortedMap κ β),
      List.Forall₂ (Beside R) m.entries m'.entries →
        List.Forall₂ (Beside R) (l.foldl (fun m e => m.insert e.1 e.2) m).entries
          (l'.foldl (fun m e => m.insert e.1 e.2) m').entries from
    hfold ∅ ∅ .nil
  induction h with
  | nil => exact fun _ _ hm => hm
  | @cons x y l l' hxy h ih =>
      obtain ⟨hkey, hvalue⟩ := hxy
      intro m m' hm
      refine ih _ _ ?_
      change List.Forall₂ _ (insertEntry x.1 x.2 m.entries) (insertEntry y.1 y.2 m'.entries)
      rw [← hkey]
      exact forall₂_insertEntry hm hvalue

end SortedMap

namespace Redaction

/-- The redacted forms of two values do not tell them apart: they are the same text, the field is a
secret, or both are mail addresses with the same first character. -/
def Indistinct (name value value' : String) : Prop :=
  value = value' ∨ isSecret name = true ∨
    isAddress value = true ∧ isAddress value' = true ∧ value.toList.head? = value'.toList.head?

theorem firstOctet?_of_head? {cs ds : List Char} (h : cs.head? = ds.head?) :
    firstOctet? cs = firstOctet? ds := by
  cases cs with
  | nil =>
      obtain rfl := List.head?_eq_none_iff.mp h.symm
      rfl
  | cons c cs =>
      obtain ⟨ds, rfl⟩ := List.head?_eq_some_iff.mp h.symm
      rfl

/-- **Indistinct values have one redacted form**, or have none together. -/
theorem redact?_of_indistinct {name value value' : String} (h : Indistinct name value value') :
    redact? name value = redact? name value' := by
  rcases h with rfl | hsecret | ⟨hvalue, hvalue', hhead⟩
  · rfl
  · rw [redact?, redact?, if_pos hsecret, if_pos hsecret]
  · rw [redact?, redact?, if_pos hvalue, if_pos hvalue', firstOctet?_of_head? hhead]

end Redaction

namespace LogEvent

/-- The same event with other values in its fields. -/
def withFields (e : LogEvent) (fields : List (String × LogValue)) : LogEvent :=
  { e with fields := fields }

/-- Two fields of one name of which the values are indistinct, unless it is the message. -/
def IndistinctField (x y : String × LogValue) : Prop :=
  x.1 = y.1 ∧ (x.1 ≠ messageField → Redaction.Indistinct x.1 x.2.render y.2.render)

section
variable {e : LogEvent} {fields fields' : List (String × LogValue)}

theorem isSome_recordedMessage? (e : LogEvent) :
    e.recordedMessage?.isSome = decide (messageField ∈ e.fields.map Prod.fst) := by
  rw [recordedMessage?, Option.isSome_map, Bool.eq_iff_iff, List.getLast?_isSome,
    decide_eq_true_eq, List.mem_map, Ne, List.filter_eq_nil_iff]
  simp

theorem names_of_indistinct (h : List.Forall₂ IndistinctField fields fields') :
    fields.map Prod.fst = fields'.map Prod.fst := by
  induction h with
  | nil => rfl
  | cons hxy _ ih => rw [List.map_cons, List.map_cons, hxy.1, ih]

/-- The filter sees the names of the fields, but no value. -/
theorem fieldNames_withFields (h : List.Forall₂ IndistinctField e.fields fields) :
    (e.withFields fields).fieldNames = e.fieldNames := by
  rw [fieldNames, fieldNames, isSome_recordedMessage?, isSome_recordedMessage?,
    names_of_indistinct h]
  rfl

/-- Two bindings of one name to indistinct values. -/
def IndistinctDetail : String × LogValue → String × LogValue → Prop :=
  SortedMap.Beside fun name v w => Redaction.Indistinct name v.render w.render

theorem forall₂_filter_of_indistinct (h : List.Forall₂ IndistinctField fields fields') :
    List.Forall₂ IndistinctDetail (fields.filter (fun x => x.1 ≠ messageField))
      (fields'.filter (fun x => x.1 ≠ messageField)) := by
  induction h with
  | nil => exact .nil
  | @cons x y l l' hxy _ ih =>
      obtain ⟨hname, halike⟩ := hxy
      by_cases hmessage : x.1 = messageField
      · rw [List.filter_cons_of_neg (by simp [hmessage]),
          List.filter_cons_of_neg (by simp [← hname, hmessage])]
        exact ih
      · rw [List.filter_cons_of_pos (by simp [hmessage]),
          List.filter_cons_of_pos (by simp [← hname, hmessage])]
        exact .cons ⟨hname, halike hmessage⟩ ih

theorem details_withFields (h : List.Forall₂ IndistinctField e.fields fields) :
    List.Forall₂ IndistinctDetail e.details.entries (e.withFields fields).details.entries :=
  SortedMap.forall₂_ofList (forall₂_filter_of_indistinct h)

end

end LogEvent

namespace LogForwarder

section
variable {f : LogForwarder} {e : LogEvent} {fields : List (String × LogValue)}

theorem accepts_withFields (h : List.Forall₂ LogEvent.IndistinctField e.fields fields) :
    f.accepts (e.withFields fields) = f.accepts e := by
  rw [accepts, accepts, LogEvent.fieldNames_withFields h]
  rfl

theorem fieldValue?_of_indistinct (hredacts : f.redacts = true) {name : String}
    {v w : LogValue} (h : Redaction.Indistinct name v.render w.render) :
    f.fieldValue? name v = f.fieldValue? name w := by
  rw [fieldValue?, fieldValue?, if_pos hredacts, if_pos hredacts,
    Redaction.redact?_of_indistinct h]

theorem details?_withFields (hredacts : f.redacts = true)
    (h : List.Forall₂ LogEvent.IndistinctField e.fields fields) :
    f.details? (e.withFields fields) = f.details? e := by
  refine (mapM_congr_forall₂ ((LogEvent.details_withFields h).imp ?_)).symm
  rintro x y ⟨hname, hvalue⟩
  rw [← hname, fieldValue?_of_indistinct hredacts hvalue]

/-- **What a log entry does not tell.**  When the values of an event's fields are replaced by
indistinct ones, but for the message, then where details are redacted the event is accepted as
before and has an entry as before, which differs from the former one in the message at most; and if
the message stays, it does not differ at all. -/
theorem entry?_of_indistinct (f : LogForwarder) (hredacts : f.redacts = true) (e : LogEvent)
    (fields : List (String × LogValue))
    (h : List.Forall₂ LogEvent.IndistinctField e.fields fields) :
    f.accepts (e.withFields fields) = f.accepts e ∧
      f.entry? (e.withFields fields) =
        ({ · with message := (e.withFields fields).message }) <$> f.entry? e ∧
      ((e.withFields fields).message = e.message →
        f.entry? (e.withFields fields) = f.entry? e) := by
  have hentry : f.entry? (e.withFields fields) =
      ({ · with message := (e.withFields fields).message }) <$> f.entry? e := by
    unfold entry?
    rw [details?_withFields hredacts h, Option.map_eq_map, Option.map_map]
    rfl
  refine ⟨accepts_withFields h, hentry, fun hmessage => ?_⟩
  rw [hentry, hmessage]
  unfold entry?
  rw [Option.map_eq_map, Option.map_map]
  rfl

end

/-- Two events with other keys, tokens and owners, of which one token is recorded twice, have one
entry. -/
theorem entry?_of_other_owner :
    let e := { ownedEvent "" with fields := [("message", .text "saved"), ("api_key", .text "k-1"),
      ("X-Token", .integer 7), ("X-Token", .integer 8), ("owner", .text "ada@x.org")] }
    let fields := [("message", .text "saved"), ("api_key", .text "k-22"),
      ("X-Token", .truth true), ("X-Token", .text ""), ("owner", .text "al@mail.example")]
    forwardsAll.redacts = true ∧ List.Forall₂ LogEvent.IndistinctField e.fields fields ∧
      forwardsAll.accepts e = true ∧ forwardsAll.accepts (e.withFields fields) = true ∧
      forwardsAll.entry? e ≠ none ∧
      forwardsAll.entry? (e.withFields fields) = forwardsAll.entry? e := by
  intro e fields
  have hfields : List.Forall₂ LogEvent.IndistinctField e.fields fields :=
    .cons ⟨rfl, fun h => absurd rfl h⟩ <|
    .cons ⟨rfl, fun _ => .inr (.inl (by decide))⟩ <|
    .cons ⟨rfl, fun _ => .inr (.inl (by decide))⟩ <|
    .cons ⟨rfl, fun _ => .inr (.inl (by decide))⟩ <|
    .cons ⟨rfl, fun _ => .inr (.inr (by decide))⟩ .nil
  have haccepts : forwardsAll.accepts e = true := by decide
  obtain ⟨hsame, -, hentry⟩ := entry?_of_indistinct forwardsAll rfl e fields hfields
  exact ⟨rfl, hfields, haccepts, hsame.trans haccepts, by decide, hentry rfl⟩

end LogForwarder

end MediaMonitor
