import MediaMonitor.Deletion.Progress
import MediaMonitor.Number.Rounding
import MediaMonitor.Text.Integer

/-!
# Tallies

How many items a deletion was asked for, and how many of them were deleted, failed or were skipped.
The backend's counts may not add up; `reconciled` makes them account for exactly the items that were
asked for.  Sums stop at the greatest counter.
-/

namespace MediaMonitor

/-- The counts of one deletion. -/
structure DeleteTally where
  requested : UInt64 := 0
  deleted : UInt64 := 0
  failed : UInt64 := 0
  skipped : UInt64 := 0
  reclaimedBytes : UInt64 := 0
  errors : List ItemError := []
  deriving DecidableEq, Repr, Inhabited

namespace DeleteTally

/-- The word for a number of items. -/
def itemWord (count : UInt64) : String := if count = 1 then "item" else "items"

/-- A number of items. -/
def items (count : UInt64) : String := Text.ofNat count.toNat ++ " " ++ itemWord count

/-- The number of items whose fate is known. -/
def accounted (t : DeleteTally) : UInt64 :=
  saturatingAdd (saturatingAdd t.deleted t.failed) t.skipped

/-- Every item is accounted for, and no other. -/
def isBalanced (t : DeleteTally) : Bool := t.accounted = t.requested

/-- The error that stands for items of which nothing was said. -/
def unreported (missing : UInt64) : ItemError :=
  ⟨items missing, "No result was reported by the server"⟩

/-- The counts made to account for exactly the items asked for: missing ones failed, and a surplus
is taken from the skipped first, then from the failed, then from the deleted. -/
def reconciled (t : DeleteTally) : DeleteTally :=
  if t.accounted < t.requested then
    let missing := t.requested - t.accounted
    { t with failed := t.failed + missing, errors := t.errors ++ [unreported missing] }
  else if t.requested < t.accounted then
    let deleted := min t.deleted t.requested
    let failed := min t.failed (t.requested - deleted)
    let skipped := min t.skipped (t.requested - deleted - failed)
    { t with deleted := deleted, failed := failed, skipped := skipped }
  else t

/-- The tally of a result, for a request of so many items. -/
def ofResult (requested : UInt64) (r : BulkDeleteResult) : DeleteTally :=
  reconciled {
    requested := requested
    deleted := r.deleted
    failed := r.failed
    skipped := r.skipped
    reclaimedBytes := r.totalSize
    errors := r.errors }

/-- The fields of a tally. -/
def layout : List Json.FieldNames :=
  [["requested"], ["deleted"], ["failed"], ["skipped"], ["reclaimed_bytes"], ["errors"]]

/-- Decodes a tally. -/
def ofJson? (j : Json) : Option DeleteTally := do
  match ← Json.fields? layout j with
  | [requested, deleted, failed, skipped, reclaimedBytes, errors] =>
      return {
        requested := ← Json.required Json.uint64? requested
        deleted := ← Json.required Json.uint64? deleted
        failed := ← Json.required Json.uint64? failed
        skipped := ← Json.required Json.uint64? skipped
        reclaimedBytes := ← Json.required Json.uint64? reclaimedBytes
        errors := ← Json.required (Json.list? ItemError.ofJson?) errors }
  | _ => none

/-- Encodes a tally. -/
def toJson (t : DeleteTally) : Json := .object [
  ("requested", Json.ofUInt64 t.requested),
  ("deleted", Json.ofUInt64 t.deleted),
  ("failed", Json.ofUInt64 t.failed),
  ("skipped", Json.ofUInt64 t.skipped),
  ("reclaimed_bytes", Json.ofUInt64 t.reclaimedBytes),
  ("errors", Json.ofList ItemError.toJson t.errors)]

end DeleteTally

end MediaMonitor
