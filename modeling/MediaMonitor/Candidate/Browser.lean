import MediaMonitor.Backend
import MediaMonitor.Candidate.Selection
import MediaMonitor.Text.Blank

/-!
# The candidate browser

A paged, searchable and sortable view of a rule's candidates, with a selection that belongs to the
page in view: whatever changes the rows clears it, and a fetched page keeps of it what it holds.
-/

namespace MediaMonitor

/-- A view of a rule's candidates. -/
structure Browser where
  ruleId : Int64
  query : CandidateQuery
  /-- The page fetched last. -/
  page : Option CandidatePage := none
  selection : Selection := .empty
  deriving DecidableEq

namespace Browser

/-- A browser that has fetched nothing; a page has room for one candidate at least. -/
def start (ruleId : Int64) (perPage : UInt32) : Browser where
  ruleId := ruleId
  query := .first (max perPage 1)

/-- The candidates in view. -/
def candidates (b : Browser) : List Candidate :=
  match b.page with
  | some p => p.items
  | none => []

/-- The ids of the candidates in view. -/
def visible (b : Browser) : List Int64 := b.candidates.map (·.id)

/-- Clears the selection. -/
def clearSelection (b : Browser) : Browser := { b with selection := .empty }

/-- Changes to another rule: its first page, unfiltered and unsorted. -/
def setRule (b : Browser) (ruleId : Int64) : Browser :=
  if ruleId = b.ruleId then b else { ruleId := ruleId, query := .first b.query.perPage }

/-- Changes to another page. -/
def setPage (b : Browser) (page : UInt32) : Except MaintenanceError Browser :=
  if page = 0 then .error (.validation "Page numbers start at 1")
  else .ok { b with query := { b.query with page := page } }.clearSelection

/-- Changes the search term; a blank one lets everything through. -/
def setSearch (b : Browser) (term : String) : Browser :=
  let term := Text.trim term
  { b with query := { b.query with
      search := if term = "" then none else some term
      page := 1 } }.clearSelection

/-- Changes the order by a click on a column. -/
def cycleSort (b : Browser) (column : SortColumn) : Browser :=
  { b with query := { b.query with
      sort := SortState.cycle b.query.sort column
      page := 1 } }.clearSelection

/-- Selects a candidate in view, or takes it out of the selection. -/
def toggle (b : Browser) (id : Int64) : Browser :=
  if id ∈ b.visible then { b with selection := b.selection.toggle id } else b

/-- Selects all candidates in view. -/
def selectPage (b : Browser) : Browser := { b with selection := b.selection.selectAll b.visible }

/-- Takes a fetched page into view. -/
def withPage (b : Browser) (page : CandidatePage) : Browser :=
  { b with
    page := some page
    selection := b.selection.retain (fun id => (page.items.map (·.id)).contains id) }

/-- Fetches the page in view again; a browser that fails to stays as it is. -/
def refresh (b : Browser) : Procedure (Except MaintenanceError CandidatePage × Browser) := do
  match ← Procedure.call (.listCandidates b.ruleId b.query) with
  | .ok page => return (.ok page, b.withPage page)
  | .error e => return (.error e, b)

end Browser

end MediaMonitor
