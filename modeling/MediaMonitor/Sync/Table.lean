import MediaMonitor.Event.Basic
import MediaMonitor.Sync.Operation

/-!
# The table of syncs

The operations of all rules with syncs in flight and their status lines.  A snapshot changes the
lines of the rules that still have a sync at work and retires all others; the report says which
lines changed and which rules retired.  A key that the snapshot does not mention is taken to be
done.
-/

namespace MediaMonitor

/-- An operation none of whose keys is at work any more. -/
structure RetiredOperation where
  ruleId : Int64
  errors : List KeyError
  keyCount : Nat
  deriving DecidableEq, Repr, Inhabited

namespace RetiredOperation

/-- The candidates are out of date unless every sync failed. -/
def shouldRefetch (r : RetiredOperation) : Bool := r.errors.length < r.keyCount

/-- One line that names every failed library. -/
def errorMessage? (r : RetiredOperation) : Option String :=
  if r.errors = [] then none
  else some ("; ".intercalate (r.errors.map (fun e => e.libraryName ++ ": " ++ e.message)))

/-- What observers are told of a retired operation. -/
def events (r : RetiredOperation) : List Event :=
  (match r.errorMessage? with
    | some message => [.sync (.failed r.ruleId message (r.errors.map (·.libraryName)))]
    | none => []) ++
  (if r.shouldRefetch then [.library (.candidatesStale r.ruleId)] else []) ++
  [.sync (.completed r.ruleId r.shouldRefetch)]

end RetiredOperation

/-- What a snapshot changed. -/
structure TickReport where
  /-- The rules whose line changed. -/
  updates : List (Int64 × String) := []
  retired : List RetiredOperation := []
  deriving DecidableEq, Repr

namespace TickReport

/-- What observers are told of a report. -/
def events (t : TickReport) : List Event :=
  t.updates.map (fun u => .sync (.progress u.1 u.2)) ++ t.retired.flatMap (·.events)

end TickReport

/-- A copy of what the table shows: the tracked rules, ascending, and the status lines. -/
structure TrackerView where
  tracked : List Int64 := []
  statuses : SortedMap Int64 String := ∅
  deriving DecidableEq

/-- The operations and the status lines of the tracked rules. -/
structure SyncTable where
  operations : SortedMap Int64 SyncOperation := ∅
  statuses : SortedMap Int64 String := ∅

instance : Inhabited SyncTable := ⟨{}⟩

namespace SyncTable

/-- Adds an operation; the keys join those the rule already waits for. -/
def insert (t : SyncTable) (op : SyncOperation) : SyncTable :=
  let merged := match t.operations.find? op.ruleId with
    | some present => present.merge op.keys
    | none => op
  { t with operations := t.operations.insert op.ruleId merged }

/-- Looks at one operation of the table: its line goes into the report and among the status lines if
it is not there already, and an operation without a line goes into the report. -/
def visit (s : SyncSnapshot) (found : TickReport × SortedMap Int64 String)
    (e : Int64 × SyncOperation) : TickReport × SortedMap Int64 String :=
  let (report, statuses) := found
  match e.2.status? s with
  | some line =>
      if statuses.find? e.1 = some line then found
      else ({ report with updates := report.updates ++ [(e.1, line)] }, statuses.insert e.1 line)
  | none =>
      let retired := ⟨e.1, e.2.errors s, e.2.keys.length⟩
      ({ report with retired := report.retired ++ [retired] }, statuses)

/-- Applies a snapshot: what it changes, and the table after it. -/
def applySnapshot (t : SyncTable) (s : SyncSnapshot) : TickReport × SyncTable :=
  let (report, statuses) := t.operations.entries.foldl (visit s) ({}, t.statuses)
  (report, {
    operations := report.retired.foldl (fun m r => m.erase r.ruleId) t.operations
    statuses := report.retired.foldl (fun m r => m.erase r.ruleId) statuses })

/-- The rule is tracked. -/
def contains (t : SyncTable) (ruleId : Int64) : Bool := t.operations.contains ruleId

/-- What the table shows. -/
def view (t : SyncTable) : TrackerView := ⟨t.operations.keys, t.statuses⟩

/-- The number of tracked rules. -/
def size (t : SyncTable) : Nat := t.operations.size

/-- No rule is tracked. -/
def isEmpty (t : SyncTable) : Bool := t.operations.isEmpty

end SyncTable

end MediaMonitor
