import MediaMonitor.Json.Record

/-!
# Error notes

The backend's own account of an error: an object with an `error` text or else a `message` text.
-/

namespace MediaMonitor.ErrorNote

/-- The fields of a note. -/
def layout : List Json.FieldNames := [["error"], ["message"]]

/-- The text of a note, if it is one and has one. -/
def text? (j : Json) : Option String := do
  match ← Json.fields? layout j with
  | [error, message] => do
      let error ← Json.optional Json.string? error
      let message ← Json.optional Json.string? message
      error.or message
  | _ => none

end MediaMonitor.ErrorNote
