import MediaMonitor.Backend
import MediaMonitor.Distinct
import MediaMonitor.Number.Checked
import MediaMonitor.RunId

/-!
# Deletion across servers

An item is deleted together with chosen copies of it on other servers.  The backend checks each copy
against the item, so every copy is tried before the item itself, and no failure stops the rest.  The
sizes of what was deleted are added up at the end; if they leave the counters the deletion breaks
off there, and nobody is told what became of it.
-/

namespace MediaMonitor

/-- What became of one item. -/
structure DeleteTarget where
  itemId : Int64
  /-- The server of a copy; the item itself has none. -/
  serverName : Option String
  libraryName : Option String
  title : String
  sizeBytes : Option UInt64
  error : Option String
  deriving DecidableEq, Repr

namespace DeleteTarget

/-- The item was deleted. -/
def succeeded (t : DeleteTarget) : Bool := t.error.isNone

/-- The name of an item in an error. -/
def label (t : DeleteTarget) : String :=
  match t.serverName with
  | some server => t.title ++ " on " ++ server
  | none => t.title

/-- The error of an item that was not deleted. -/
def itemError? (t : DeleteTarget) : Option ItemError := t.error.map (fun e => ⟨t.label, e⟩)

/-- The tally of a list of items, if the sizes of those that were deleted add up to a counter. -/
def tally? (targets : List DeleteTarget) : Option DeleteTally :=
  let deleted := targets.filter (·.succeeded)
  (checkedSum (deleted.filterMap (·.sizeBytes))).map fun reclaimed =>
    { requested := UInt64.ofNat targets.length
      deleted := UInt64.ofNat deleted.length
      failed := UInt64.ofNat targets.length - UInt64.ofNat deleted.length
      skipped := 0
      reclaimedBytes := reclaimed
      errors := targets.filterMap (·.itemError?) }

/-- The target that a copy is, with what became of it. -/
def ofMatch (m : CrossServerMatch) (error : Option String) : DeleteTarget where
  itemId := m.itemId
  serverName := some m.serverName
  libraryName := some m.libraryName
  title := m.title
  sizeBytes := m.sizeBytes
  error := error

/-- The target that the item itself is, with what became of it. -/
def ofSource (c : Candidate) (error : Option String) : DeleteTarget where
  itemId := c.item.id
  serverName := none
  libraryName := none
  title := c.item.title
  sizeBytes := c.item.sizeBytes
  error := error

end DeleteTarget

/-- What became of an item and its copies. -/
structure CrossServerReport where
  source : DeleteTarget
  /-- The copies, in the order in which they were tried. -/
  copies : List DeleteTarget
  outcome : DeleteOutcome
  deriving DecidableEq, Repr

namespace CrossServer

/-- The copies of an item; the backend lists the item itself among them. -/
def findMatches (c : Candidate) : Procedure (Except MaintenanceError (List CrossServerMatch)) := do
  return (← Procedure.call (.crossServerMatches c.item.id)).map
    (fun l => l.filter (fun m => m.itemId ≠ c.item.id))

/-- The matches without repeated items. -/
def distinct (l : List CrossServerMatch) : List CrossServerMatch := distinctBy (·.itemId) [] l

/-- The error of a delete call, if it failed. -/
def errorOf : Except MaintenanceError Unit → Option String
  | .ok () => none
  | .error e => some e.message

/-- Deletes copies of an item, one after another. -/
def deleteMatches (source : Candidate) : List CrossServerMatch → Procedure (List DeleteTarget)
  | [] => return []
  | m :: rest => do
      let reply ← Procedure.call (.deleteLibraryItem m.itemId (some source.item.id))
      let targets ← deleteMatches source rest
      return .ofMatch m (errorOf reply) :: targets

/-- The run id of the `n`-th deletion across servers, apart from those of batch deletions. -/
def runId (n : Nat) : RunId := ⟨UInt64.size + n⟩

/-- What a deletion returns: an error, a report, or nothing when it broke off. -/
abbrev Result := Option (Except MaintenanceError CrossServerReport)

/-- Tells what became of a deletion, and returns its report. -/
def finish (run : RunId) (ruleId : Int64) (report : CrossServerReport) : Procedure Result := do
  Procedure.emit (.deletion (.finished run.text report.outcome.kind report.outcome.message))
  if report.outcome.needsRefresh then Procedure.emit (.library (.candidatesStale ruleId))
  return some (.ok report)

/-- The end of a deletion, when everything was tried. -/
def conclude (run : RunId) (ruleId : Int64) (source : DeleteTarget) (copies : List DeleteTarget) :
    Procedure Result :=
  match DeleteTarget.tally? (source :: copies) with
  | some tally => finish run ruleId ⟨source, copies, .classify tally⟩
  | none => return none

/-- Deletes the selected copies of an item, then the item. -/
def delete (run : RunId) (source : Candidate) (selected : List CrossServerMatch) :
    Procedure Result :=
  if selected.any (fun m => m.itemId = source.item.id) then
    return some (.error (.validation "The source item cannot be selected as its own match"))
  else do
    let selected := distinct selected
    Procedure.emit (.deletion (.started run.text source.ruleId (UInt64.ofNat selected.length + 1)))
    let copies ← deleteMatches source selected
    let reply ← Procedure.call (.deleteLibraryItem source.item.id none)
    conclude run source.ruleId (.ofSource source (errorOf reply)) copies

end CrossServer

end MediaMonitor
