import Mathlib.Algebra.Order.BigOperators.Group.List
import Mathlib.Algebra.Order.Group.Nat
import MediaMonitor.Deletion.CrossServer
import MediaMonitor.Proofs.Deletion.Move
import MediaMonitor.Proofs.Deletion.Tally
import MediaMonitor.Proofs.Number.Checked
import MediaMonitor.Proofs.Procedure

/-!
# Deletions across servers

A deletion across servers makes one call for each distinct copy, each checked against the item, and
then one call for the item itself, whatever came of the calls before (`CrossServer.run_delete`).
Its report shows what came of each call, and its outcome counts them.  An item that is chosen as a
copy of itself is refused before any call is made.
-/

namespace MediaMonitor

/-! ### Tallies of targets -/

namespace DeleteTarget

/-- The known sizes of what was deleted. -/
def reclaimedSizes (targets : List DeleteTarget) : List UInt64 :=
  (targets.filter (·.succeeded)).filterMap (·.sizeBytes)

section
variable {targets : List DeleteTarget} {t : DeleteTally}

theorem tally?_eq_none_iff :
    tally? targets = none ↔ UInt64.size ≤ ((reclaimedSizes targets).map (·.toNat)).sum :=
  Option.map_eq_none_iff.trans checkedSum_eq_none_iff

theorem of_tally? (h : tally? targets = some t) :
    t.skipped = 0 ∧ t.errors = targets.filterMap (·.itemError?) ∧
      t.reclaimedBytes.toNat = ((reclaimedSizes targets).map (·.toNat)).sum := by
  obtain ⟨reclaimed, hsum, rfl⟩ := Option.map_eq_some_iff.mp h
  exact ⟨rfl, rfl, checkedSum_eq_some_iff.mp hsum⟩

theorem toNat_of_tally? (h : tally? targets = some t) (hlen : targets.length < UInt64.size) :
    t.requested.toNat = targets.length ∧
      t.deleted.toNat = (targets.map (·.error)).countP (·.isNone) ∧
      t.failed.toNat = (targets.map (·.error)).countP (·.isSome) := by
  obtain ⟨reclaimed, -, rfl⟩ := Option.map_eq_some_iff.mp h
  have hsplit := List.length_eq_countP_add_countP (·.isNone) (l := targets.map (·.error))
  simp only [List.length_map, Bool.not_eq_true, Bool.decide_eq_false, Option.not_isNone] at hsplit
  have hfilter : (targets.filter (·.succeeded)).length =
      (targets.map (·.error)).countP (·.isNone) := by
    rw [← List.countP_eq_length_filter, List.countP_map]; rfl
  have hrequested : (UInt64.ofNat targets.length).toNat = targets.length :=
    UInt64.toNat_ofNat_of_lt' hlen
  have hdeleted : (UInt64.ofNat (targets.filter (·.succeeded)).length).toNat =
      (targets.map (·.error)).countP (·.isNone) := by
    rw [hfilter, UInt64.toNat_ofNat_of_lt' (by omega)]
  have hle : UInt64.ofNat (targets.filter (·.succeeded)).length ≤ .ofNat targets.length := by
    rw [UInt64.le_iff_toNat_le, hrequested, hdeleted]; omega
  refine ⟨hrequested, hdeleted, ?_⟩
  simp only [UInt64.toNat_sub_of_le _ _ hle, hrequested, hdeleted]
  omega

end

end DeleteTarget

namespace DeleteOutcome

/-- What an outcome that skips nothing amounts to, when its counts are those of a list of errors. -/
theorem kind_classify {t : DeleteTally} {errors : List (Option String)} (hne : errors ≠ [])
    (hskipped : t.skipped = 0) (hdeleted : t.deleted.toNat = errors.countP (·.isNone))
    (hfailed : t.failed.toNat = errors.countP (·.isSome)) :
    (classify t).kind =
        (if errors.all (·.isNone) then .success else if errors.all (·.isSome) then .error
          else .partly) ∧
      ((classify t).needsRefresh = true ↔ ∃ e ∈ errors, e = none) := by
  have hd : t.deleted = 0 ↔ errors.all (·.isSome) := by
    rw [← UInt64.toNat_inj, hdeleted, UInt64.toNat_zero, List.countP_eq_zero, List.all_eq_true]
    simp [Option.isSome_iff_ne_none]
  have hf : t.failed = 0 ↔ errors.all (·.isNone) := by
    rw [← UInt64.toNat_inj, hfailed, UInt64.toNat_zero, List.countP_eq_zero, List.all_eq_true]
    simp
  have hex : (∃ e ∈ errors, e = none) ↔ t.deleted ≠ 0 := by
    rw [Ne, hd]; simp
  have hpos : 0 < t.deleted ↔ t.deleted ≠ 0 := UInt64.pos_iff_ne_zero
  rw [hex, ← if_congr hf rfl (if_congr hd rfl rfl)]
  by_cases h0 : t.deleted = 0
  · -- something was tried, so it failed
    have hf0 : t.failed ≠ 0 := by
      intro hf0
      obtain ⟨e, rest, rfl⟩ := List.exists_cons_of_ne_nil hne
      have hsome := List.all_eq_true.mp (hd.mp h0) e (List.mem_cons_self ..)
      have hnone := List.all_eq_true.mp (hf.mp hf0) e (List.mem_cons_self ..)
      rw [Option.isNone_iff_eq_none.mp hnone] at hsome
      cases hsome
    simp [classify, needsRefresh, hskipped, h0, hf0]
  · by_cases hf0 : t.failed = 0 <;> simp [classify, needsRefresh, hskipped, h0, hf0, hpos]

end DeleteOutcome

namespace CrossServer

/-! ### Distinct copies -/

/-- The ids of the selected copies, each once, where it came first. -/
def copyIds (selected : List CrossServerMatch) : List Int64 := (selected.map (·.itemId)).eraseDups

theorem map_itemId_distinct (l : List CrossServerMatch) :
    (distinct l).map (·.itemId) = copyIds l := map_distinctBy_nil _ l

theorem length_distinct (l : List CrossServerMatch) :
    (distinct l).length = (copyIds l).length := by
  rw [← map_itemId_distinct, List.length_map]

/-- Of the matches with one item, the first is kept. -/
theorem find?_of_mem_distinct {l : List CrossServerMatch} {m : CrossServerMatch}
    (h : m ∈ distinct l) : l.find? (·.itemId = m.itemId) = some m :=
  (find?_of_mem_distinctBy h).2

/-- The matches that are tried: of the selected ones with one id, the first. -/
def tried (selected : List CrossServerMatch) : List CrossServerMatch :=
  (copyIds selected).filterMap (fun id => selected.find? (·.itemId = id))

theorem distinct_eq_tried (selected : List CrossServerMatch) :
    distinct selected = tried selected := by
  rw [tried, ← map_itemId_distinct, List.filterMap_map]
  exact (List.filterMap_some.symm).trans
    (List.filterMap_congr fun m hm => (find?_of_mem_distinct hm).symm)

/-! ### The calls of a deletion -/

/-- The call that deletes a copy, which is checked against the item. -/
def copyCall (source : Candidate) (id : Int64) : BackendCall :=
  .deleteLibraryItem id (some source.item.id)

/-- The call that deletes the item, which is checked against nothing. -/
def sourceCall (source : Candidate) : BackendCall := .deleteLibraryItem source.item.id none

/-- The calls that delete the selected copies. -/
def copyCalls (source : Candidate) (selected : List CrossServerMatch) : List BackendCall :=
  (copyIds selected).map (copyCall source)

/-- The calls of a deletion: the copies come before the item. -/
def deleteCalls (source : Candidate) (selected : List CrossServerMatch) : List BackendCall :=
  copyCalls source selected ++ [sourceCall source]

theorem map_copyCall_distinct (source : Candidate) (selected : List CrossServerMatch) :
    (distinct selected).map (fun m => copyCall source m.itemId) = copyCalls source selected := by
  rw [copyCalls, ← map_itemId_distinct, List.map_map]
  rfl

/-- How a call to delete an item failed, if it did. -/
theorem failure?_delete (id : Int64) (v : Option Int64) (r : Except MaintenanceError Unit) :
    Procedure.failure? ⟨.deleteLibraryItem id v, r⟩ = errorOf r := by
  cases r <;> rfl

/-! ### Sizes -/

/-- The sizes of what is tried, where they are known, in the order of the calls. -/
def triedSizes (source : Candidate) (selected : List CrossServerMatch) : List (Option UInt64) :=
  (tried selected).map (·.sizeBytes) ++ [source.item.sizeBytes]

/-- The known sizes of what was deleted: of everything that is tried whose call did not fail. -/
def deletedSizes (source : Candidate) (selected : List CrossServerMatch)
    (failures : List (Option String)) : List UInt64 :=
  (((triedSizes source selected).zip failures).filter (·.2.isNone)).filterMap (·.1)

/-- The sum of the known sizes of what was deleted, whether or not it is a counter. -/
def deletedTotal (source : Candidate) (selected : List CrossServerMatch)
    (failures : List (Option String)) : Nat :=
  ((deletedSizes source selected failures).map (·.toNat)).sum

/-- The sum of all known sizes of the selected matches and the item. -/
def knownTotal (source : Candidate) (selected : List CrossServerMatch) : Nat :=
  (((selected.map (·.sizeBytes) ++ [source.item.sizeBytes]).filterMap id).map (·.toNat)).sum

theorem deletedTotal_le_knownTotal {source : Candidate} {selected : List CrossServerMatch}
    {failures : List (Option String)}
    (h : failures.length = (triedSizes source selected).length) :
    deletedTotal source selected failures ≤ knownTotal source selected := by
  have hsizes : (((triedSizes source selected).zip failures).filterMap (·.1)) =
      (triedSizes source selected).filterMap id := by
    conv_rhs => rw [← List.map_fst_zip (Nat.le_of_eq h.symm), List.filterMap_map]
    rfl
  have htried : (tried selected).Sublist selected :=
    distinct_eq_tried selected ▸ distinctBy_sublist _ [] selected
  have hsublist : (triedSizes source selected).Sublist
      (selected.map (·.sizeBytes) ++ [source.item.sizeBytes]) :=
    (htried.map _).append_right _
  have hdeleted : (deletedSizes source selected failures).Sublist
      ((selected.map (·.sizeBytes) ++ [source.item.sizeBytes]).filterMap id) :=
    (List.filter_sublist.filterMap _).trans (hsizes ▸ hsublist.filterMap id)
  exact (hdeleted.map _).sum_le_sum fun n _ => Nat.zero_le n

/-! ### Reports -/

/-- What becomes of the selected copies whose calls failed as given, if they did. -/
def copyTargets (selected : List CrossServerMatch) (failures : List (Option String)) :
    List DeleteTarget :=
  ((distinct selected).zip failures).map (fun p => .ofMatch p.1 p.2)

/-- The titles under which errors are listed: that of the item, and those of the copies, each with
its server. -/
def errorTitles (source : Candidate) (selected : List CrossServerMatch) : List String :=
  source.item.title :: (tried selected).map (fun m => m.title ++ " on " ++ m.serverName)

/-- A report accounts for the calls of a deletion; how each of them failed, if it did, is given. -/
structure Accounts (source : Candidate) (selected : List CrossServerMatch)
    (failures : List (Option String)) (report : CrossServerReport) : Prop where
  ids : report.copies.map (·.itemId) = copyIds selected
  errors : report.copies.map (·.error) ++ [report.source.error] = failures
  /-- A copy is shown as the first of the selected matches with its id describes it. -/
  copies : ∀ t ∈ report.copies, ∃ m, selected.find? (·.itemId = t.itemId) = some m ∧
    t = ⟨m.itemId, m.serverName, m.libraryName, m.title, m.sizeBytes, t.error⟩
  item : report.source =
    ⟨source.item.id, none, none, source.item.title, source.item.sizeBytes, report.source.error⟩
  requested : report.outcome.tally.requested.toNat = 1 + (copyIds selected).length
  deleted : report.outcome.tally.deleted.toNat = failures.countP (·.isNone)
  failed : report.outcome.tally.failed.toNat = failures.countP (·.isSome)
  skipped : report.outcome.tally.skipped = 0
  /-- The errors are those of the item and then of the copies, each under its title. -/
  itemErrors : report.outcome.tally.errors =
    ((errorTitles source selected).zip
      (report.source.error :: report.copies.map (·.error))).filterMap
        (fun p => p.2.map (fun text => ⟨p.1, text⟩))
  reclaimed : report.outcome.tally.reclaimedBytes.toNat = deletedTotal source selected failures
  kind : report.outcome.kind =
    if failures.all (·.isNone) then .success
    else if failures.all (·.isSome) then .error
    else .partly

section
variable {source : Candidate} {selected : List CrossServerMatch} {failures : List (Option String)}
  {failure : Option String} {tally : DeleteTally}

/-- The targets are the selected copies. -/
theorem map_itemId_copyTargets (h : failures.length = (distinct selected).length) :
    (copyTargets selected failures).map (·.itemId) = copyIds selected := by
  have hfst := List.map_fst_zip (Nat.le_of_eq h.symm)
  rw [← map_itemId_distinct, ← congrArg (List.map (·.itemId)) hfst, copyTargets, List.map_map,
    List.map_map]
  rfl

/-- The targets have failed as their calls have. -/
theorem map_error_copyTargets (h : failures.length = (distinct selected).length) :
    (copyTargets selected failures).map (·.error) = failures := by
  rw [copyTargets, List.map_map]
  exact List.map_snd_zip (Nat.le_of_eq h)

/-- Each target is described as the match that was selected. -/
theorem find?_of_mem_copyTargets {t : DeleteTarget} (ht : t ∈ copyTargets selected failures) :
    ∃ m, selected.find? (·.itemId = t.itemId) = some m ∧ t = .ofMatch m t.error := by
  obtain ⟨⟨m, e⟩, hmem, rfl⟩ := List.mem_map.mp ht
  exact ⟨m, find?_of_mem_distinct (List.of_mem_zip hmem).1, rfl⟩

/-- The errors of the targets stand under the titles. -/
theorem filterMap_itemError? (source : Candidate) (selected : List CrossServerMatch)
    (failure : Option String) (failures : List (Option String)) :
    (DeleteTarget.ofSource source failure :: copyTargets selected failures).filterMap
        (·.itemError?) =
      ((errorTitles source selected).zip (failure :: failures)).filterMap
        (fun p => p.2.map (fun text => ⟨p.1, text⟩)) := by
  have hcopies : (copyTargets selected failures).filterMap (·.itemError?) =
      (((tried selected).map (fun m => m.title ++ " on " ++ m.serverName)).zip
        failures).filterMap (fun p => p.2.map (fun text => ⟨p.1, text⟩)) := by
    rw [copyTargets, distinct_eq_tried, List.zip_map_left, List.filterMap_map, List.filterMap_map]
    rfl
  rw [errorTitles, List.zip_cons_cons, List.filterMap_cons, List.filterMap_cons, hcopies]
  cases failure <;> rfl

/-- What was deleted of the targets has the sizes of what is tried without failing.  The targets
have the item first, the calls have it last. -/
theorem reclaimedSizes_perm (h : failures.length = (distinct selected).length) :
    (DeleteTarget.reclaimedSizes (.ofSource source failure :: copyTargets selected failures)).Perm
      (deletedSizes source selected (failures ++ [failure])) := by
  have hpairs (targets : List DeleteTarget) : DeleteTarget.reclaimedSizes targets =
      ((targets.map fun t => (t.sizeBytes, t.error)).filter (·.2.isNone)).filterMap (·.1) := by
    rw [List.filter_map, List.filterMap_map]
    rfl
  have hcopies : (copyTargets selected failures).map (fun t => (t.sizeBytes, t.error)) =
      ((tried selected).map (·.sizeBytes)).zip failures := by
    rw [copyTargets, distinct_eq_tried, List.zip_map_left, List.map_map]
    rfl
  have hlength : ((tried selected).map (·.sizeBytes)).length = failures.length := by
    rw [List.length_map, ← distinct_eq_tried, h]
  rw [hpairs, deletedSizes, triedSizes, List.zip_append hlength, List.map_cons, hcopies]
  exact ((List.perm_append_singleton _ _).symm.filter _).filterMap _

/-- The tally of the targets fails if and only if what was deleted is beyond the counters. -/
theorem tally?_targets_eq_none_iff (h : failures.length = (distinct selected).length) :
    DeleteTarget.tally? (.ofSource source failure :: copyTargets selected failures) = none ↔
      UInt64.size ≤ deletedTotal source selected (failures ++ [failure]) := by
  rw [DeleteTarget.tally?_eq_none_iff, ((reclaimedSizes_perm h).map _).sum_eq]
  rfl

/-- The report of a deletion with these targets and their tally. -/
def reportOf (target : DeleteTarget) (targets : List DeleteTarget) (tally : DeleteTally) :
    CrossServerReport :=
  ⟨target, targets, .classify tally⟩

/-- The report of targets that have failed as their calls have. -/
theorem accounts (hlen : (copyIds selected).length + 1 < UInt64.size)
    (h : failures.length = (distinct selected).length)
    (htally : DeleteTarget.tally? (.ofSource source failure :: copyTargets selected failures) =
      some tally) :
    let report := reportOf (.ofSource source failure) (copyTargets selected failures) tally
    Accounts source selected (failures ++ [failure]) report ∧
      (report.outcome.needsRefresh = true ↔ ∃ f ∈ failures ++ [failure], f = none) := by
  intro report
  have hids := map_itemId_copyTargets h
  have herrors := map_error_copyTargets h
  have hlength : (copyTargets selected failures).length = (copyIds selected).length := by
    rw [← hids, List.length_map]
  obtain ⟨hskipped, hitems, hreclaimed⟩ := DeleteTarget.of_tally? htally
  obtain ⟨hrequested, hdeleted, hfailed⟩ :=
    DeleteTarget.toNat_of_tally? htally (by rwa [List.length_cons, hlength])
  -- the tally has the item first, the calls have it last
  have hperm := List.perm_append_singleton failure failures
  rw [List.map_cons, herrors] at hdeleted hfailed
  have hdeleted' := hdeleted.trans (hperm.countP_eq _).symm
  have hfailed' := hfailed.trans (hperm.countP_eq _).symm
  obtain ⟨hkind, hrefresh⟩ := DeleteOutcome.kind_classify
    (List.append_ne_nil_of_right_ne_nil _ (List.cons_ne_nil _ _)) hskipped hdeleted' hfailed'
  have hsame : report.outcome.tally = tally := DeleteOutcome.tally_classify tally
  refine ⟨?_, hrefresh⟩
  exact {
    ids := hids
    errors := congrArg (· ++ [failure]) herrors
    copies := fun t ht => find?_of_mem_copyTargets ht
    item := rfl
    requested := by rw [hsame, hrequested, List.length_cons, hlength, Nat.add_comm]
    deleted := by rw [hsame, hdeleted']
    failed := by rw [hsame, hfailed']
    skipped := by rw [hsame, hskipped]
    itemErrors := by
      have hcopies : report.copies.map (·.error) = failures := herrors
      have hitem : report.source.error = failure := rfl
      rw [hsame, hitems, filterMap_itemError?, hcopies, hitem]
    reclaimed := by
      rw [hsame, hreclaimed, deletedTotal, ((reclaimedSizes_perm h).map _).sum_eq]
    kind := hkind }

end

/-! ### Runs of a deletion -/

section
variable {σ : Type} (answer : σ → (c : BackendCall) → c.Outcome × σ)

theorem run_deleteMatches (source : Candidate) (l : List CrossServerMatch) (s : σ) :
    let calls := l.map (fun m => copyCall source m.itemId)
    let failures := (Procedure.replies answer calls s).map Procedure.failure?
    Procedure.run answer (deleteMatches source l) s =
      ({ result := (l.zip failures).map (fun p => .ofMatch p.1 p.2), calls := calls },
        Procedure.after answer calls s) := by
  induction l generalizing s with
  | nil => rfl
  | cons m rest ih =>
      rw [deleteMatches, Procedure.run_call_bind]
      simp only [Procedure.run_bind, ih, Procedure.run_pure, Procedure.Trace.andThen,
        List.append_nil, ← failure?_delete m.itemId (some source.item.id)]
      rfl

/-- How the calls that delete the copies fail, if they do. -/
def copyFailures (source : Candidate) (selected : List CrossServerMatch) (s : σ) :
    List (Option String) :=
  (Procedure.replies answer (copyCalls source selected) s).map Procedure.failure?

/-- How the call that deletes the item fails after those for its copies, if it does. -/
def sourceFailure (source : Candidate) (selected : List CrossServerMatch) (s : σ) :
    Option String :=
  errorOf (answer (Procedure.after answer (copyCalls source selected) s) (sourceCall source)).1

/-- What the item and its selected copies come to, in the order of a report. -/
def targetsOf (source : Candidate) (selected : List CrossServerMatch) (s : σ) :
    List DeleteTarget :=
  .ofSource source (sourceFailure answer source selected s) ::
    copyTargets selected (copyFailures answer source selected s)

theorem map_failure?_replies (source : Candidate) (selected : List CrossServerMatch) (s : σ) :
    (Procedure.replies answer (deleteCalls source selected) s).map Procedure.failure? =
      copyFailures answer source selected s ++ [sourceFailure answer source selected s] := by
  rw [deleteCalls, Procedure.replies_append, List.map_append, copyFailures, sourceFailure]
  simp only [Procedure.replies, List.map_cons, List.map_nil, sourceCall, failure?_delete]

theorem length_copyFailures (source : Candidate) (selected : List CrossServerMatch) (s : σ) :
    (copyFailures answer source selected s).length = (distinct selected).length := by
  rw [copyFailures, List.length_map, Procedure.length_replies, ← map_copyCall_distinct,
    List.length_map]

/-- A selection that holds the item itself is refused. -/
theorem delete_of_mem {source : Candidate} {selected : List CrossServerMatch} (run : RunId)
    (h : ∃ m ∈ selected, m.itemId = source.item.id) :
    delete run source selected =
      pure (some (.error
        (.validation "The source item cannot be selected as its own match"))) := by
  rw [delete, if_pos (by simpa using h)]

/-- The events of the end of a deletion. -/
def finishEvents (run : RunId) (ruleId : Int64) (report : CrossServerReport) : List Event :=
  .deletion (.finished run.text report.outcome.kind report.outcome.message) ::
    if report.outcome.needsRefresh then [.library (.candidatesStale ruleId)] else []

theorem run_finish (run : RunId) (ruleId : Int64) (report : CrossServerReport) (s : σ) :
    Procedure.run answer (finish run ruleId report) s =
      ({ result := some (.ok report), events := finishEvents run ruleId report }, s) := by
  rw [finish, finishEvents, Procedure.run_emit_bind]
  cases report.outcome.needsRefresh <;> rfl

/-- The first event of a deletion. -/
def startEvent (run : RunId) (source : Candidate) (selected : List CrossServerMatch) : Event :=
  .deletion (.started run.text source.ruleId (.ofNat (copyIds selected).length + 1))

/-- A deletion that is not refused makes its calls, and then it comes to its end. -/
theorem run_delete_of_not_mem {source : Candidate} {selected : List CrossServerMatch}
    (run : RunId) (s : σ) (h : ∀ m ∈ selected, m.itemId ≠ source.item.id) :
    let target := DeleteTarget.ofSource source (sourceFailure answer source selected s)
    let targets := copyTargets selected (copyFailures answer source selected s)
    let trace := (Procedure.run answer (conclude run source.ruleId target targets)
      (Procedure.after answer (deleteCalls source selected) s)).1
    (Procedure.run answer (delete run source selected) s).1 =
      { result := trace.result
        calls := deleteCalls source selected ++ trace.calls
        events := startEvent run source selected :: trace.events } := by
  have hafter : Procedure.after answer (deleteCalls source selected) s =
      (answer (Procedure.after answer (copyCalls source selected) s) (sourceCall source)).2 :=
    List.foldl_append
  have hcalls (calls : List BackendCall) : deleteCalls source selected ++ calls =
      copyCalls source selected ++ sourceCall source :: calls :=
    List.append_assoc ..
  rw [delete, if_neg (by simpa using h), Procedure.run_emit_bind, Procedure.run_bind,
    run_deleteMatches, map_copyCall_distinct, length_distinct]
  simp only [hafter, hcalls]
  rfl

section
variable {source : Candidate} {selected : List CrossServerMatch} (run : RunId) (s : σ)

/-- What a deletion does that is not refused, when it has a tally. -/
theorem trace_delete {tally : DeleteTally} (h : ∀ m ∈ selected, m.itemId ≠ source.item.id)
    (htally : DeleteTarget.tally? (targetsOf answer source selected s) = some tally) :
    let report := reportOf (.ofSource source (sourceFailure answer source selected s))
      (copyTargets selected (copyFailures answer source selected s)) tally
    (Procedure.run answer (delete run source selected) s).1 =
      { result := some (.ok report)
        calls := deleteCalls source selected
        events := startEvent run source selected :: finishEvents run source.ruleId report } := by
  rw [targetsOf] at htally
  rw [run_delete_of_not_mem answer run s h, conclude, htally]
  simp only [run_finish, List.append_nil, reportOf]

/-- What it does when it has none: all its calls, and no more. -/
theorem trace_delete_of_none (h : ∀ m ∈ selected, m.itemId ≠ source.item.id)
    (htally : DeleteTarget.tally? (targetsOf answer source selected s) = none) :
    (Procedure.run answer (delete run source selected) s).1 =
      { result := none
        calls := deleteCalls source selected
        events := [startEvent run source selected] } := by
  rw [targetsOf] at htally
  rw [run_delete_of_not_mem answer run s h, conclude, htally]
  simp only [Procedure.run_pure, List.append_nil]

/-- A deletion that is not refused makes its calls, whether it has a tally or not. -/
theorem calls_delete (h : ∀ m ∈ selected, m.itemId ≠ source.item.id) :
    (Procedure.run answer (delete run source selected) s).1.calls =
      deleteCalls source selected := by
  cases htally : DeleteTarget.tally? (targetsOf answer source selected s) with
  | some tally => rw [trace_delete answer run s h htally]
  | none => rw [trace_delete_of_none answer run s h htally]

/-- There is no tally if and only if what was deleted is beyond the counters. -/
theorem tally?_targetsOf_eq_none_iff :
    DeleteTarget.tally? (targetsOf answer source selected s) = none ↔
      UInt64.size ≤ deletedTotal source selected
        ((Procedure.replies answer (deleteCalls source selected) s).map Procedure.failure?) := by
  rw [map_failure?_replies, targetsOf,
    tally?_targets_eq_none_iff (length_copyFailures answer source selected s)]

theorem exists_tally
    (h : deletedTotal source selected
      ((Procedure.replies answer (deleteCalls source selected) s).map Procedure.failure?) <
        UInt64.size) :
    ∃ tally, DeleteTarget.tally? (targetsOf answer source selected s) = some tally :=
  Option.ne_none_iff_exists'.mp
    (mt (tally?_targetsOf_eq_none_iff answer s).mp (Nat.not_le.mpr h))

end

/-- **A deletion across servers** refuses a selection that holds the item itself, and makes no call
then.  Otherwise it makes its calls in order, whatever comes of them.  If all the known sizes add up
to a counter it returns a report that accounts for the calls, and the candidates are stale if any of
them went well.  The distinct copies and the item are counted by 64 bits. -/
theorem run_delete (run : RunId) (source : Candidate) (selected : List CrossServerMatch) (s : σ)
    (hlen : (copyIds selected).length + 1 < UInt64.size) :
    let trace := (Procedure.run answer (delete run source selected) s).1
    let failures := (Procedure.replies answer (deleteCalls source selected) s).map
      Procedure.failure?
    ((∃ m ∈ selected, m.itemId = source.item.id) →
      trace.result = some (.error
          (.validation "The source item cannot be selected as its own match")) ∧
        trace.calls = [] ∧ trace.events = []) ∧
    ((∀ m ∈ selected, m.itemId ≠ source.item.id) →
      trace.calls = deleteCalls source selected ∧
        (knownTotal source selected < UInt64.size →
          ∃ report, trace.result = some (.ok report) ∧ Accounts source selected failures report ∧
            trace.events =
              [.deletion (.started run.text source.ruleId (.ofNat (copyIds selected).length + 1)),
                .deletion (.finished run.text report.outcome.kind report.outcome.message)] ++
              if ∃ f ∈ failures, f = none then [.library (.candidatesStale source.ruleId)]
              else [])) := by
  intro trace failures
  refine ⟨fun h => ?_, fun h => ⟨?_, fun hsizes => ?_⟩⟩
  · simp only [trace, delete_of_mem run h, Procedure.run_pure, and_self]
  · exact calls_delete answer run s h
  · have hfailures : failures.length = (triedSizes source selected).length := by
      rw [triedSizes, ← distinct_eq_tried, List.length_map, Procedure.length_replies, deleteCalls,
        ← map_copyCall_distinct]
      simp only [List.length_append, List.length_map, List.length_singleton]
    obtain ⟨tally, htally⟩ :=
      exists_tally answer s ((deletedTotal_le_knownTotal hfailures).trans_lt hsizes)
    obtain ⟨haccounts, hrefresh⟩ :=
      accounts hlen (length_copyFailures answer source selected s) htally
    rw [← map_failure?_replies] at haccounts hrefresh
    have htrace := trace_delete answer run s h htally
    refine ⟨_, congrArg Procedure.Trace.result htrace, haccounts, ?_⟩
    rw [congrArg Procedure.Trace.events htrace]
    simp only [finishEvents, hrefresh]
    rfl

end

/-- A copy that is selected twice is tried once; it fails, and so does the item, but the other copy
is deleted. -/
theorem run_delete_copy_failed :
    let item : LibraryItem :=
      { (default : LibraryItem) with id := 1, title := "Heat", sizeBytes := some 4096 }
    let source : Candidate := { (default : Candidate) with item := item }
    let copy (id : Int64) (server : String) : CrossServerMatch :=
      { (default : CrossServerMatch) with itemId := id, serverName := server, title := "Heat" }
    let selected := [copy 8 "Backup", copy 9 "Attic", copy 8 "Cellar"]
    let answer (_ : Unit) (c : BackendCall) : c.Outcome × Unit :=
      (match c with
        | .deleteLibraryItem id _ => if id = 9 then .ok () else .error .cancelled
        | _ => .error .cancelled, ())
    let trace := (Procedure.run answer (delete (runId 0) source selected) ()).1
    (copyIds selected).length + 1 < UInt64.size ∧
      (∀ m ∈ selected, m.itemId ≠ source.item.id) ∧ knownTotal source selected < UInt64.size ∧
      trace.calls = [.deleteLibraryItem 8 (some 1), .deleteLibraryItem 9 (some 1),
        .deleteLibraryItem 1 none] ∧
      ∃ report, trace.result = some (.ok report) ∧
        report.copies.map (·.error) ++ [report.source.error] =
          [some MaintenanceError.cancelled.message, none,
            some MaintenanceError.cancelled.message] ∧
        report.outcome.tally.errors = [⟨"Heat", MaintenanceError.cancelled.message⟩,
          ⟨"Heat on Backup", MaintenanceError.cancelled.message⟩] ∧
        report.outcome.kind = .partly ∧ report.outcome.tally.deleted.toNat = 1 ∧
        .library (.candidatesStale source.ruleId) ∈ trace.events := by
  intro item source copy selected answer trace
  have hlen : (copyIds selected).length + 1 < UInt64.size := by decide
  have hne : ∀ m ∈ selected, m.itemId ≠ source.item.id := by decide
  have hsizes : knownTotal source selected < UInt64.size := by decide
  obtain ⟨hcalls, hreport⟩ := (run_delete answer (runId 0) source selected () hlen).2 hne
  obtain ⟨report, hresult, haccounts, hevents⟩ := hreport hsizes
  have herrors : report.copies.map (·.error) ++ [report.source.error] =
      [some MaintenanceError.cancelled.message, none] ++
        [some MaintenanceError.cancelled.message] :=
    haccounts.errors.trans (by decide)
  obtain ⟨hcopies, hsource⟩ := List.append_inj' herrors rfl
  refine ⟨hlen, hne, hsizes, hcalls.trans (by decide), report, hresult, herrors, ?_,
    haccounts.kind.trans ?_, haccounts.deleted.trans ?_, ?_⟩
  · rw [haccounts.itemErrors, hcopies, List.singleton_inj.mp hsource]
    decide
  · decide
  · decide
  · rw [hevents, if_pos (by decide)]
    exact List.mem_append_right _ (List.mem_singleton_self _)

end CrossServer

end MediaMonitor
