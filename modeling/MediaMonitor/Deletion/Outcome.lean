import MediaMonitor.Deletion.ByteSize
import MediaMonitor.Deletion.Tally

/-!
# Outcomes

What a deletion amounts to: success, partial success or failure, with a sentence that says so.  A
deletion of which the backend's final word never came is credited with nothing.
-/

namespace MediaMonitor

/-- The kind of an outcome. -/
inductive OutcomeKind where
  | success
  | partly
  | error
  deriving DecidableEq, Repr, Inhabited

namespace OutcomeKind

/-- The name of a kind. -/
def name : OutcomeKind → String
  | .success => "success"
  | .partly => "partial"
  | .error => "error"

/-- Decodes a kind. -/
def ofJson? : Json → Option OutcomeKind :=
  Json.choice? ([success, partly, error].map (fun k => (k.name, k)))

end OutcomeKind

/-- The outcome of a deletion. -/
structure DeleteOutcome where
  kind : OutcomeKind
  tally : DeleteTally
  message : String
  deriving DecidableEq, Repr, Inhabited

namespace DeleteOutcome

/-- The sentence for a deletion that left nothing undone. -/
def successMessage (t : DeleteTally) : String :=
  "Deleted " ++ DeleteTally.items t.deleted ++
    (if 0 < t.reclaimedBytes then " (" ++ ByteSize.format t.reclaimedBytes ++ " reclaimed)" else "")

/-- The sentence for a deletion that left something undone. -/
def partialMessage (t : DeleteTally) : String :=
  "Deleted " ++ Text.ofNat t.deleted.toNat ++ " of " ++ DeleteTally.items t.requested ++ " (" ++
    Text.ofNat t.failed.toNat ++ " failed, " ++ Text.ofNat t.skipped.toNat ++ " skipped)"

/-- The sentence for a deletion that skipped everything. -/
def skippedMessage (t : DeleteTally) : String :=
  "All " ++ DeleteTally.items t.skipped ++
    " were skipped; they may have been excluded after the page was loaded"

/-- The outcome that a tally amounts to. -/
def classify (t : DeleteTally) : DeleteOutcome :=
  if 0 < t.deleted ∧ t.failed = 0 ∧ t.skipped = 0 then ⟨.success, t, successMessage t⟩
  else if 0 < t.deleted then ⟨.partly, t, partialMessage t⟩
  else if t.failed = 0 ∧ 0 < t.skipped then ⟨.partly, t, skippedMessage t⟩
  else ⟨.error, t, "Failed to delete " ++ DeleteTally.items t.requested⟩

/-- The outcome of a deletion whose final word never came. -/
def transportFailure (requested : UInt64) (reason : String) : DeleteOutcome :=
  ⟨.error, { requested := requested, failed := requested }, "Delete failed: " ++ reason⟩

/-- Something may have changed: all but an error that deleted nothing. -/
def needsRefresh (o : DeleteOutcome) : Bool := !(o.kind = .error && o.tally.deleted = 0)

/-- The fields of an outcome. -/
def layout : List Json.FieldNames := [["kind"], ["tally"], ["message"]]

/-- Decodes an outcome. -/
def ofJson? (j : Json) : Option DeleteOutcome := do
  match ← Json.fields? layout j with
  | [kind, tally, message] =>
      return {
        kind := ← Json.required OutcomeKind.ofJson? kind
        tally := ← Json.required DeleteTally.ofJson? tally
        message := ← Json.required Json.string? message }
  | _ => none

/-- Encodes an outcome. -/
def toJson (o : DeleteOutcome) : Json := .object [
  ("kind", .string o.kind.name),
  ("tally", o.tally.toJson),
  ("message", .string o.message)]

end DeleteOutcome

end MediaMonitor
