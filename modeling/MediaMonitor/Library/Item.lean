import MediaMonitor.Calendar.Instant
import MediaMonitor.Json.Record

/-!
# Library items

An item of a library, the candidate a rule makes of it, a page of candidates, and an item of another
server that is believed to be the same title.
-/

namespace MediaMonitor

/-- Decodes an instant. -/
def Instant.ofJson? : Json → Option Instant
  | .string s => Instant.ofText? s
  | _ => none

/-- Encodes an instant. -/
def Instant.toJson (t : Instant) : Json := .string t.write

/-- An item as the backend knows it. -/
structure LibraryItem where
  id : Int64
  serverId : Int64
  libraryId : String
  title : String
  year : Option Int32
  sizeBytes : Option UInt64
  addedAt : Option Instant
  tmdbId : Option Int64
  tvdbId : Option Int64
  imdbId : Option String
  deriving DecidableEq, Repr, Inhabited

namespace LibraryItem

/-- The fields of an item. -/
def layout : List Json.FieldNames := [["id"], ["server_id"], ["library_id"], ["title"], ["year"],
  ["size_bytes"], ["added_at"], ["tmdb_id"], ["tvdb_id"], ["imdb_id"]]

/-- Decodes an item. -/
def ofJson? (j : Json) : Option LibraryItem := do
  match ← Json.fields? layout j with
  | [id, serverId, libraryId, title, year, sizeBytes, addedAt, tmdbId, tvdbId, imdbId] =>
      return {
        id := ← Json.required Json.int64? id
        serverId := ← Json.required Json.int64? serverId
        libraryId := ← Json.required Json.string? libraryId
        title := ← Json.required Json.string? title
        year := ← Json.optional Json.int32? year
        sizeBytes := ← Json.optional Json.uint64? sizeBytes
        addedAt := ← Json.optional Instant.ofJson? addedAt
        tmdbId := ← Json.optional Json.int64? tmdbId
        tvdbId := ← Json.optional Json.int64? tvdbId
        imdbId := ← Json.optional Json.string? imdbId }
  | _ => none

/-- Encodes an item. -/
def toJson (i : LibraryItem) : Json := .object [
  ("id", Json.ofInt64 i.id),
  ("server_id", Json.ofInt64 i.serverId),
  ("library_id", .string i.libraryId),
  ("title", .string i.title),
  ("year", Json.ofOption (fun y => .integer y.toInt) i.year),
  ("size_bytes", Json.ofOption Json.ofUInt64 i.sizeBytes),
  ("added_at", Json.ofOption Instant.toJson i.addedAt),
  ("tmdb_id", Json.ofOption Json.ofInt64 i.tmdbId),
  ("tvdb_id", Json.ofOption Json.ofInt64 i.tvdbId),
  ("imdb_id", Json.ofOption .string i.imdbId)]

end LibraryItem

/-- An item that a rule would delete, and why. -/
structure Candidate where
  id : Int64
  ruleId : Int64
  item : LibraryItem
  reason : String
  deriving DecidableEq, Repr, Inhabited

namespace Candidate

/-- The fields of a candidate. -/
def layout : List Json.FieldNames := [["id"], ["rule_id"], ["item"], ["reason"]]

/-- Decodes a candidate. -/
def ofJson? (j : Json) : Option Candidate := do
  match ← Json.fields? layout j with
  | [id, ruleId, item, reason] =>
      return {
        id := ← Json.required Json.int64? id
        ruleId := ← Json.required Json.int64? ruleId
        item := ← Json.required LibraryItem.ofJson? item
        reason := ← Json.required Json.string? reason }
  | _ => none

/-- Encodes a candidate. -/
def toJson (c : Candidate) : Json := .object [
  ("id", Json.ofInt64 c.id),
  ("rule_id", Json.ofInt64 c.ruleId),
  ("item", c.item.toJson),
  ("reason", .string c.reason)]

end Candidate

/-- One page of candidates, and the number and size of all that the filter lets through. -/
structure CandidatePage where
  items : List Candidate
  total : UInt64
  totalSize : UInt64
  deriving DecidableEq, Repr, Inhabited

namespace CandidatePage

/-- The fields of a page. -/
def layout : List Json.FieldNames := [["items"], ["total"], ["total_size"]]

/-- Decodes a page. -/
def ofJson? (j : Json) : Option CandidatePage := do
  match ← Json.fields? layout j with
  | [items, total, totalSize] =>
      return {
        items := ← Json.required (Json.list? Candidate.ofJson?) items
        total := ← Json.required Json.uint64? total
        totalSize := ← Json.withDefault 0 Json.uint64? totalSize }
  | _ => none

/-- Encodes a page. -/
def toJson (p : CandidatePage) : Json := .object [
  ("items", Json.ofList Candidate.toJson p.items),
  ("total", Json.ofUInt64 p.total),
  ("total_size", Json.ofUInt64 p.totalSize)]

end CandidatePage

/-- An item of another server that is believed to be the same title. -/
structure CrossServerMatch where
  itemId : Int64
  serverId : Int64
  serverName : String
  libraryId : String
  libraryName : String
  title : String
  sizeBytes : Option UInt64
  deriving DecidableEq, Repr, Inhabited

namespace CrossServerMatch

/-- The fields of a match. -/
def layout : List Json.FieldNames := [["item_id"], ["server_id"], ["server_name"], ["library_id"],
  ["library_name"], ["title"], ["size_bytes"]]

/-- Decodes a match. -/
def ofJson? (j : Json) : Option CrossServerMatch := do
  match ← Json.fields? layout j with
  | [itemId, serverId, serverName, libraryId, libraryName, title, sizeBytes] =>
      return {
        itemId := ← Json.required Json.int64? itemId
        serverId := ← Json.required Json.int64? serverId
        serverName := ← Json.required Json.string? serverName
        libraryId := ← Json.required Json.string? libraryId
        libraryName := ← Json.required Json.string? libraryName
        title := ← Json.required Json.string? title
        sizeBytes := ← Json.optional Json.uint64? sizeBytes }
  | _ => none

/-- Encodes a match. -/
def toJson (m : CrossServerMatch) : Json := .object [
  ("item_id", Json.ofInt64 m.itemId),
  ("server_id", Json.ofInt64 m.serverId),
  ("server_name", .string m.serverName),
  ("library_id", .string m.libraryId),
  ("library_name", .string m.libraryName),
  ("title", .string m.title),
  ("size_bytes", Json.ofOption Json.ofUInt64 m.sizeBytes)]

end CrossServerMatch

end MediaMonitor
