import MediaMonitor.Json.Record

/-!
# Progress and result of a batch deletion

What the backend says while it deletes a batch, and in the end.  The number of items dealt with and
the number of bytes reclaimed have a second name each.
-/

namespace MediaMonitor

/-- The progress of a batch deletion. -/
structure DeleteProgress where
  current : UInt64 := 0
  total : UInt64
  deleted : UInt64 := 0
  failed : UInt64 := 0
  skipped : UInt64 := 0
  reclaimedBytes : UInt64 := 0
  deriving DecidableEq, Repr, Inhabited

namespace DeleteProgress

/-- The progress before anything was done. -/
def zero (total : UInt64) : DeleteProgress := { total := total }

/-- The fields of a progress. -/
def layout : List Json.FieldNames := [["current", "processed"], ["total"], ["deleted"], ["failed"],
  ["skipped"], ["reclaimed_bytes", "reclaimed_size"]]

/-- Decodes a progress. -/
def ofJson? (j : Json) : Option DeleteProgress := do
  match ← Json.fields? layout j with
  | [current, total, deleted, failed, skipped, reclaimedBytes] =>
      return {
        current := ← Json.withDefault 0 Json.uint64? current
        total := ← Json.required Json.uint64? total
        deleted := ← Json.withDefault 0 Json.uint64? deleted
        failed := ← Json.withDefault 0 Json.uint64? failed
        skipped := ← Json.withDefault 0 Json.uint64? skipped
        reclaimedBytes := ← Json.withDefault 0 Json.uint64? reclaimedBytes }
  | _ => none

/-- Encodes a progress. -/
def toJson (p : DeleteProgress) : Json := .object [
  ("current", Json.ofUInt64 p.current),
  ("total", Json.ofUInt64 p.total),
  ("deleted", Json.ofUInt64 p.deleted),
  ("failed", Json.ofUInt64 p.failed),
  ("skipped", Json.ofUInt64 p.skipped),
  ("reclaimed_bytes", Json.ofUInt64 p.reclaimedBytes)]

end DeleteProgress

/-- What went wrong with one item. -/
structure ItemError where
  title : String
  error : String
  deriving DecidableEq, Repr, Inhabited

namespace ItemError

/-- The fields of an item error. -/
def layout : List Json.FieldNames := [["title"], ["error"]]

/-- Decodes an item error. -/
def ofJson? (j : Json) : Option ItemError := do
  match ← Json.fields? layout j with
  | [title, error] =>
      return {
        title := ← Json.required Json.string? title
        error := ← Json.required Json.string? error }
  | _ => none

/-- Encodes an item error. -/
def toJson (e : ItemError) : Json :=
  .object [("title", .string e.title), ("error", .string e.error)]

end ItemError

/-- The final word of the backend on a batch deletion. -/
structure BulkDeleteResult where
  deleted : UInt64
  failed : UInt64
  skipped : UInt64
  totalSize : UInt64 := 0
  errors : List ItemError := []
  deriving DecidableEq, Repr, Inhabited

namespace BulkDeleteResult

/-- The fields of a result. -/
def layout : List Json.FieldNames :=
  [["deleted"], ["failed"], ["skipped"], ["total_size"], ["errors"]]

/-- Decodes a result. -/
def ofJson? (j : Json) : Option BulkDeleteResult := do
  match ← Json.fields? layout j with
  | [deleted, failed, skipped, totalSize, errors] =>
      return {
        deleted := ← Json.required Json.uint64? deleted
        failed := ← Json.required Json.uint64? failed
        skipped := ← Json.required Json.uint64? skipped
        totalSize := ← Json.withDefault 0 Json.uint64? totalSize
        errors := ← Json.withDefault [] (Json.list? ItemError.ofJson?) errors }
  | _ => none

/-- Encodes a result. -/
def toJson (r : BulkDeleteResult) : Json := .object [
  ("deleted", Json.ofUInt64 r.deleted),
  ("failed", Json.ofUInt64 r.failed),
  ("skipped", Json.ofUInt64 r.skipped),
  ("total_size", Json.ofUInt64 r.totalSize),
  ("errors", Json.ofList ItemError.toJson r.errors)]

end BulkDeleteResult

end MediaMonitor
