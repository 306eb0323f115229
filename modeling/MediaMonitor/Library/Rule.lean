import MediaMonitor.Distinct
import MediaMonitor.Json.Record
import MediaMonitor.Sync.Key

/-!
# Rules

A maintenance rule and the libraries it looks at.  Several entries of a rule may name the same
library of the same server; the first of them gives its display name.
-/

namespace MediaMonitor

/-- A library of a server, as a rule refers to it. -/
structure LibraryRef where
  serverId : Int64
  libraryId : String
  libraryName : String
  deriving DecidableEq, Repr, Inhabited

namespace LibraryRef

/-- The key under which the backend lists syncs of the library. -/
def syncKey (l : LibraryRef) : SyncKey := ⟨l.serverId, l.libraryId⟩

/-- The fields of a library reference. -/
def layout : List Json.FieldNames := [["server_id"], ["library_id"], ["library_name"]]

/-- Decodes a library reference. -/
def ofJson? (j : Json) : Option LibraryRef := do
  match ← Json.fields? layout j with
  | [serverId, libraryId, libraryName] =>
      return {
        serverId := ← Json.required Json.int64? serverId
        libraryId := ← Json.required Json.string? libraryId
        libraryName := ← Json.required Json.string? libraryName }
  | _ => none

/-- Encodes a library reference. -/
def toJson (l : LibraryRef) : Json := .object [
  ("server_id", Json.ofInt64 l.serverId),
  ("library_id", .string l.libraryId),
  ("library_name", .string l.libraryName)]

end LibraryRef

/-- A maintenance rule. -/
structure Rule where
  id : Int64
  name : String
  libraries : List LibraryRef
  deriving DecidableEq, Repr, Inhabited

namespace Rule

/-- The fields of a rule. -/
def layout : List Json.FieldNames := [["id"], ["name"], ["libraries"]]

/-- Decodes a rule. -/
def ofJson? (j : Json) : Option Rule := do
  match ← Json.fields? layout j with
  | [id, name, libraries] =>
      return {
        id := ← Json.required Json.int64? id
        name := ← Json.required Json.string? name
        libraries := ← Json.withDefault [] (Json.list? LibraryRef.ofJson?) libraries }
  | _ => none

/-- Encodes a rule. -/
def toJson (r : Rule) : Json := .object [
  ("id", Json.ofInt64 r.id),
  ("name", .string r.name),
  ("libraries", Json.ofList LibraryRef.toJson r.libraries)]

/-- The display name of the library with a key, or the key itself when the rule has none. -/
def libraryName (r : Rule) (key : SyncKey) : String :=
  match r.libraries.find? (fun l => l.syncKey = key) with
  | some l => l.libraryName
  | none => key.encode

/-- The libraries of a rule without repeated keys, in the order of the rule. -/
def distinctLibraries (r : Rule) : List LibraryRef := distinctBy (·.syncKey) [] r.libraries

end Rule

end MediaMonitor
