import MediaMonitor.Candidate.Sort
import MediaMonitor.Text.Integer
import MediaMonitor.Text.Percent

/-!
# Candidate queries

Which page of a rule's candidates is wanted, under which search term and in which order, and the
query string that asks the backend for it.
-/

namespace MediaMonitor

/-- A page of candidates to ask for; pages are counted from 1. -/
structure CandidateQuery where
  page : UInt32
  perPage : UInt32
  search : Option String
  sort : Option SortState
  deriving DecidableEq, Repr, Inhabited

namespace CandidateQuery

/-- The first page, unfiltered and unsorted. -/
def first (perPage : UInt32) : CandidateQuery := ⟨1, perPage, none, none⟩

/-- The parameters of a query: names and values, the latter percent-encoded. -/
def parameters (q : CandidateQuery) : List (String × List Char) :=
  [("page", Text.natDigits q.page.toNat), ("per_page", Text.natDigits q.perPage.toNat)] ++
    (match q.search with
    | some term => if term = "" then [] else [("search", Text.Percent.encode term)]
    | none => []) ++
    (match q.sort with
    | some s => [("sort", s.column.name.toList), ("order", s.direction.name.toList)]
    | none => [])

/-- The query string. -/
def queryString (q : CandidateQuery) : String :=
  String.ofList ((q.parameters.map (fun p => p.1.toList ++ '=' :: p.2)).intersperse ['&']).flatten

end CandidateQuery

end MediaMonitor
