import MediaMonitor.Json.Basic
import MediaMonitor.SortedMap

/-!
# Records in JSON

A record is an object with a member for each field, in any order, or an array of the fields in the
order of their declaration.  A field may have a second name.  `Json.fields?` finds what stands for
each field; `required`, `optional` and `withDefault` say what its absence means.
-/

namespace MediaMonitor.Json

/-- The names of a field. -/
abbrev FieldNames := List String

/-- The member that stands for a field: there may be none, but not two. -/
def field? (members : List (String × Json)) (names : FieldNames) : Option (Option Json) :=
  match members.filter (fun m => names.contains m.1) with
  | [] => some none
  | [m] => some (some m.2)
  | _ => none

/-- What stands for each of the fields.  An array may end early. -/
def fields? (layout : List FieldNames) : Json → Option (List (Option Json))
  | .object members => layout.mapM (field? members)
  | .array items =>
      if items.length ≤ layout.length then
        some (items.map some ++ List.replicate (layout.length - items.length) none)
      else none
  | _ => none

/-- A field that must be there. -/
def required (decode? : Json → Option α) : Option Json → Option α
  | some j => decode? j
  | none => none

/-- A field that may be absent or null. -/
def optional (decode? : Json → Option α) : Option Json → Option (Option α)
  | none => some none
  | some .null => some none
  | some j => (decode? j).map some

/-- A field that may be absent. -/
def withDefault (a : α) (decode? : Json → Option α) : Option Json → Option α
  | none => some a
  | some j => decode? j

/-! ## Values of fields -/

/-- A text. -/
def string? : Json → Option String
  | .string s => some s
  | _ => none

/-- A truth value. -/
def bool? : Json → Option Bool
  | .bool b => some b
  | _ => none

/-- An integer between two bounds, both included. -/
def between? (least greatest : Int) : Json → Option Int
  | .integer i => if least ≤ i ∧ i ≤ greatest then some i else none
  | _ => none

/-- A signed number of 64 bits. -/
def int64? (j : Json) : Option Int64 :=
  (between? Int64.minValue.toInt Int64.maxValue.toInt j).map Int64.ofInt

/-- A signed number of 32 bits. -/
def int32? (j : Json) : Option Int32 :=
  (between? Int32.minValue.toInt Int32.maxValue.toInt j).map Int32.ofInt

/-- A count of 64 bits. -/
def uint64? (j : Json) : Option UInt64 :=
  (between? 0 (UInt64.size - 1) j).map (fun i => UInt64.ofNat i.toNat)

/-- A count of 32 bits. -/
def uint32? (j : Json) : Option UInt32 :=
  (between? 0 (UInt32.size - 1) j).map (fun i => UInt32.ofNat i.toNat)

/-- A count of 16 bits. -/
def uint16? (j : Json) : Option UInt16 :=
  (between? 0 (UInt16.size - 1) j).map (fun i => UInt16.ofNat i.toNat)

/-- A list. -/
def list? (decode? : Json → Option α) : Json → Option (List α)
  | .array items => items.mapM decode?
  | _ => none

/-- A map from texts, in which the last of equal keys stands. -/
def map? (decode? : Json → Option α) : Json → Option (SortedMap String α)
  | .object members =>
      (members.mapM (fun m => (decode? m.2).map (fun a => (m.1, a)))).map SortedMap.ofList
  | _ => none

/-- One of a number of named values: its name, or an object with the name as its one key and null
behind it. -/
def choice? (choices : List (String × α)) : Json → Option α
  | .string s => choices.lookup s
  | .object [(s, .null)] => choices.lookup s
  | _ => none

/-! ## Writing fields -/

/-- A signed number of 64 bits. -/
def ofInt64 (i : Int64) : Json := .integer i.toInt

/-- A count of 64 bits. -/
def ofUInt64 (n : UInt64) : Json := .integer n.toNat

/-- A value, or null in place of none. -/
def ofOption (encode : α → Json) : Option α → Json
  | some a => encode a
  | none => .null

/-- A list. -/
def ofList (encode : α → Json) (l : List α) : Json := .array (l.map encode)

end MediaMonitor.Json
