import MediaMonitor.Log.Forwarder
import MediaMonitor.Proofs.SortedMap
import MediaMonitor.Proofs.Traversal

/-!
# When a redacted value is a text

The first octet of a mail address is a text only when its first character is one of ASCII
(`Redaction.redact?_eq_none_iff`).  Every other value has a redacted form, and so an event is
forwarded unless one of its fields holds such an address
(`LogForwarder.redaction_fails_iff`).  Of an address that is forwarded, the first character is shown
at most.
-/

namespace MediaMonitor

namespace Redaction

section
variable {name value : String}

/-- The value is a mail address in clear whose first octet is no text. -/
def CutsCharacter (name value : String) : Prop :=
  isSecret name = false ∧ isAddress value = true ∧ ∃ c ∈ value.toList.head?, 0x80 ≤ c.toNat

theorem firstOctet?_eq_none_iff {cs : List Char} :
    firstOctet? cs = none ↔ ∃ c ∈ cs.head?, 0x80 ≤ c.toNat := by
  cases cs with
  | nil => simp [firstOctet?]
  | cons c cs =>
      have hsign : c = '@' → ¬ 0x80 ≤ c.toNat := by
        rintro rfl
        decide
      rw [firstOctet?]
      split_ifs with hc hlt <;> simp_all

/-- The first octet is the first character or nothing. -/
theorem prefix_of_firstOctet? {cs front : List Char} (h : firstOctet? cs = some front) :
    front <+: cs.take 1 := by
  cases cs with
  | nil =>
      cases h
      exact List.nil_prefix
  | cons c cs =>
      rw [firstOctet?] at h
      split_ifs at h with hc hlt <;> cases h
      · exact List.nil_prefix
      · exact List.prefix_rfl

theorem redact?_of_secret (h : isSecret name = true) : redact? name value = some "[REDACTED]" :=
  if_pos h

theorem redact?_of_address (hname : isSecret name = false) (hvalue : isAddress value = true) :
    redact? name value =
      (firstOctet? value.toList).map (fun cs => String.ofList cs ++ "***@[REDACTED]") := by
  rw [redact?, if_neg (by simp [hname]), if_pos hvalue]

theorem redact?_of_plain (hname : isSecret name = false) (hvalue : isAddress value = false) :
    redact? name value = some value := by
  rw [redact?, if_neg (by simp [hname]), if_neg (by simp [hvalue])]

/-- **A value has no redacted form if and only if** it is a mail address in clear that starts with a
character beyond ASCII. -/
theorem redact?_eq_none_iff : redact? name value = none ↔ CutsCharacter name value := by
  rw [CutsCharacter]
  cases hname : isSecret name with
  | true => simp [redact?_of_secret hname]
  | false =>
      cases hvalue : isAddress value with
      | false => simp [redact?_of_plain hname hvalue]
      | true => simp [redact?_of_address hname hvalue, firstOctet?_eq_none_iff]

/-- Of a mail address the first character is shown at most. -/
theorem redact?_address_shows {shown : String} (hname : isSecret name = false)
    (hvalue : isAddress value = true) (h : redact? name value = some shown) :
    ∃ front, front <+: value.toList.take 1 ∧ shown = String.ofList front ++ "***@[REDACTED]" := by
  rw [redact?_of_address hname hvalue] at h
  obtain ⟨front, hfront, hshown⟩ := Option.map_eq_some_iff.mp h
  exact ⟨front, prefix_of_firstOctet? hfront, hshown.symm⟩

end

end Redaction

namespace LogForwarder

section
variable {f : LogForwarder} {e : LogEvent}

theorem fieldValue?_eq_none_iff {name : String} {value : LogValue} :
    f.fieldValue? name value = none ↔
      f.redacts = true ∧ Redaction.CutsCharacter name value.render := by
  rw [fieldValue?, ← Redaction.redact?_eq_none_iff]
  split_ifs with h <;> simp [h]

/-- An event has no entry if and only if one of its details has no redacted form. -/
theorem entry?_eq_none_iff :
    f.entry? e = none ↔ f.redacts = true ∧
      ∃ name value, e.details.find? name = some value ∧
        Redaction.CutsCharacter name value.render := by
  unfold entry?
  rw [Option.map_eq_none_iff, details?, mapM_eq_none_iff]
  simp only [Option.map_eq_none_iff, fieldValue?_eq_none_iff, Prod.exists]
  constructor
  · rintro ⟨name, value, hmem, hredacts, hcut⟩
    exact ⟨hredacts, name, value, SortedMap.mem_entries.mp hmem, hcut⟩
  · rintro ⟨hredacts, name, value, hfind, hcut⟩
    exact ⟨name, value, SortedMap.mem_entries.mpr hfind, hredacts, hcut⟩

/-- **When redaction fails.**  Every value of every field has a redacted form, but for mail
addresses in clear that start with a character beyond ASCII; and of the other addresses in clear the
first character is shown at most.  So events are forwarded, whatever they are, unless one that is
accepted has such an address among its details and the details are redacted. -/
theorem redaction_fails_iff (name value : String) (f : LogForwarder) (events : List LogEvent) :
    (Redaction.redact? name value = none ↔ Redaction.CutsCharacter name value) ∧
    (∀ shown, Redaction.isSecret name = false → Redaction.isAddress value = true →
      Redaction.redact? name value = some shown →
        ∃ front, front <+: value.toList.take 1 ∧
          shown = String.ofList front ++ "***@[REDACTED]") ∧
    (f.forwardAll? events = none ↔ f.redacts = true ∧
      ∃ e ∈ events, f.accepts e = true ∧
        ∃ name value, e.details.find? name = some value ∧
          Redaction.CutsCharacter name value.render) := by
  refine ⟨Redaction.redact?_eq_none_iff,
    fun _ hname hvalue => Redaction.redact?_address_shows hname hvalue, ?_⟩
  rw [forwardAll?, mapM_eq_none_iff]
  simp only [List.mem_filter, entry?_eq_none_iff]
  constructor
  · rintro ⟨e, ⟨hmem, haccepts⟩, hredacts, hcut⟩
    exact ⟨hredacts, e, hmem, haccepts, hcut⟩
  · rintro ⟨hredacts, e, hmem, haccepts, hcut⟩
    exact ⟨e, ⟨hmem, haccepts⟩, hredacts, hcut⟩

end

/-- What forwards every event to a host that wants all, redacted. -/
def forwardsAll : LogForwarder where
  filter := ⟨[{}]⟩
  hostLevel := some .trace

/-- An event with an owner. -/
def ownedEvent (owner : String) : LogEvent where
  level := .info
  target := "core_service"
  name := "event"
  declared := ["owner"]
  fields := [("message", .text "é@x.com"), ("owner", .text owner)]

/-- An address that starts with a letter of ASCII is forwarded, with that letter, beside a message
that is an address, too. -/
theorem redaction_of_owner :
    Redaction.isSecret "owner" = false ∧ Redaction.isAddress "uñ@x.com" = true ∧
      Redaction.redact? "owner" "uñ@x.com" = some "u***@[REDACTED]" ∧
      (∃ front, front <+: "uñ@x.com".toList.take 1 ∧
        "u***@[REDACTED]" = String.ofList front ++ "***@[REDACTED]") ∧
      forwardsAll.forwardAll? [ownedEvent "uñ@x.com"] ≠ none := by
  obtain ⟨-, hshown, hforward⟩ :=
    redaction_fails_iff "owner" "uñ@x.com" forwardsAll [ownedEvent "uñ@x.com"]
  have hname : Redaction.isSecret "owner" = false := by decide
  have hvalue : Redaction.isAddress "uñ@x.com" = true := by decide
  have hredacted : Redaction.redact? "owner" "uñ@x.com" = some "u***@[REDACTED]" := by decide
  refine ⟨hname, hvalue, hredacted, hshown _ hname hvalue hredacted, fun hnone => ?_⟩
  obtain ⟨-, e, he, -, name, value, hfind, hcut⟩ := hforward.mp hnone
  obtain rfl := List.mem_singleton.mp he
  -- the owner is the only detail
  cases List.mem_singleton.mp (SortedMap.mem_entries.mpr hfind)
  rw [LogValue.render, ← Redaction.redact?_eq_none_iff, hredacted] at hcut
  cases hcut

/-- An address that starts with a letter beyond ASCII has no redacted form, and an event with it is
not forwarded. -/
theorem redaction_cuts_character :
    Redaction.redact? "owner" "é@x.com" = none ∧
      forwardsAll.forwardAll? [ownedEvent "é@x.com"] = none := by
  decide

end LogForwarder

end MediaMonitor
