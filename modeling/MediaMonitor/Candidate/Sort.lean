import MediaMonitor.Json.Record

/-!
# Sort order of candidates

A table of candidates is sorted by one column, up or down, or not at all.  A click on a column steps
through the column's own first direction, the other one, and none.
-/

namespace MediaMonitor

/-- A column that can be sorted by. -/
inductive SortColumn where
  | title
  | size
  | year
  | addedAt
  deriving DecidableEq, Repr, Inhabited

/-- A direction of sorting. -/
inductive SortDirection where
  | asc
  | desc
  deriving DecidableEq, Repr, Inhabited

namespace SortDirection

/-- The other direction. -/
def reversed : SortDirection → SortDirection
  | .asc => .desc
  | .desc => .asc

/-- The name of a direction. -/
def name : SortDirection → String
  | .asc => "asc"
  | .desc => "desc"

/-- Decodes a direction. -/
def ofJson? : Json → Option SortDirection :=
  Json.choice? ([asc, desc].map (fun d => (d.name, d)))

end SortDirection

namespace SortColumn

/-- The direction of the first click. -/
def defaultDirection : SortColumn → SortDirection
  | .title => .asc
  | .size | .year | .addedAt => .desc

/-- The name of a column. -/
def name : SortColumn → String
  | .title => "title"
  | .size => "size"
  | .year => "year"
  | .addedAt => "added_at"

/-- Decodes a column. -/
def ofJson? : Json → Option SortColumn :=
  Json.choice? ([title, size, year, addedAt].map (fun c => (c.name, c)))

end SortColumn

/-- A column and a direction. -/
structure SortState where
  column : SortColumn
  direction : SortDirection
  deriving DecidableEq, Repr, Inhabited

namespace SortState

/-- The order after the first click on a column. -/
def first (column : SortColumn) : SortState := ⟨column, column.defaultDirection⟩

/-- The order after a click on a column. -/
def cycle (current : Option SortState) (column : SortColumn) : Option SortState :=
  match current with
  | none => some (first column)
  | some s =>
      if s.column ≠ column then some (first column)
      else if s.direction = column.defaultDirection then some ⟨column, s.direction.reversed⟩
      else none

/-- The fields of a sort order. -/
def layout : List Json.FieldNames := [["column"], ["direction"]]

/-- Decodes a sort order. -/
def ofJson? (j : Json) : Option SortState := do
  match ← Json.fields? layout j with
  | [column, direction] =>
      return {
        column := ← Json.required SortColumn.ofJson? column
        direction := ← Json.required SortDirection.ofJson? direction }
  | _ => none

/-- Encodes a sort order. -/
def toJson (s : SortState) : Json := .object [
  ("column", .string s.column.name),
  ("direction", .string s.direction.name)]

end SortState

end MediaMonitor
