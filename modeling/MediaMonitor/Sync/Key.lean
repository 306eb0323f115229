import MediaMonitor.Error
import MediaMonitor.Text.Split

/-!
# Sync keys

A sync key names a library on a server.  Its encoded form is the server's number in decimal, a colon
and the library's id, which may hold colons itself: the first colon divides the two, because a
number holds none.
-/

namespace MediaMonitor

/-- A library on a server. -/
structure SyncKey where
  serverId : Int64
  libraryId : String
  deriving DecidableEq, Repr, Inhabited

namespace SyncKey

/-- The encoded form of a key. -/
def encode (k : SyncKey) : String :=
  String.ofList (Text.intChars k.serverId.toInt ++ ':' :: k.libraryId.toList)

/-- A signed number of 64 bits in its decimal form. -/
def serverId? (cs : List Char) : Option Int64 :=
  (Text.int? cs).bind (fun i =>
    if Int64.minValue.toInt ≤ i ∧ i ≤ Int64.maxValue.toInt then some (Int64.ofInt i) else none)

/-- The key with the given encoded form. -/
def ofText? (text : String) : Option SyncKey := do
  let (server, library) ← Text.splitFirst ':' text.toList
  let serverId ← serverId? server
  return ⟨serverId, String.ofList library⟩

/-- Reads the encoded form of a key. -/
def parse (text : String) : Except MaintenanceError SyncKey :=
  match ofText? text with
  | some k => .ok k
  | none => .error (.invalidSyncKey text)

/-- The order of keys: by server, then by library. -/
def Precedes (a b : SyncKey) : Prop :=
  a.serverId < b.serverId ∨ (a.serverId = b.serverId ∧ a.libraryId < b.libraryId)

instance : LT SyncKey := ⟨Precedes⟩
instance (a b : SyncKey) : Decidable (a < b) := inferInstanceAs (Decidable (_ ∨ _))

/-- Adds a key to a list of distinct keys in ascending order. -/
def insertSorted (k : SyncKey) : List SyncKey → List SyncKey
  | [] => [k]
  | i :: rest =>
      if k < i then k :: i :: rest else if k = i then i :: rest else i :: insertSorted k rest

/-- The distinct keys of a list in ascending order. -/
def sortDistinct (keys : List SyncKey) : List SyncKey := keys.foldr insertSorted []

end SyncKey

end MediaMonitor
