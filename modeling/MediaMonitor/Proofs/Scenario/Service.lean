import MediaMonitor.Proofs.Deletion.CrossServer
import MediaMonitor.Proofs.Deletion.Selected
import MediaMonitor.Proofs.Scenario.Calls

/-!
# The requests of a service

An operation of a service sends every request that changes something once, whatever the client that
carries it out answers (`World.sent_once`): a sync sends one for each key of the rule, a deletion
across servers one for each copy and then one for the item, a deletion of what is selected a single
one with all ids.  Whatever the monitor has in flight besides, the calls by which an operation
changes something depend on the operation alone (`World.makes_operate`).
-/

namespace MediaMonitor

/-! ### Operations -/

/-- An operation of a service. -/
inductive ServiceOperation where
  /-- The syncs of a rule are started and tracked. -/
  | sync (rule : Rule)
  /-- What a browser has selected is deleted; a cancellation may come at a time. -/
  | deleteSelected (b : Browser) (cancelAt : Option Nat)
  /-- The copies of an item are looked for. -/
  | findMatches (item : Candidate)
  /-- An item is deleted with chosen copies of it. -/
  | deleteWithMatches (source : Candidate) (selected : List CrossServerMatch)
  | cancelDelete
  | shutdown

namespace ServiceOperation

/-- The calls by which an operation changes something. -/
def changes : ServiceOperation → List BackendCall
  | .sync rule => rule.syncKeys.map .startSync
  | .deleteSelected b _ =>
      if b.selection.isEmpty then [] else [.bulkDelete b.ruleId b.selection.ids]
  | .deleteWithMatches source selected =>
      if ∃ m ∈ selected, m.itemId = source.item.id then []
      else CrossServer.deleteCalls source selected
  | .findMatches _ | .cancelDelete | .shutdown => []

end ServiceOperation

namespace CrossServer

variable {σ : Type} (answer : σ → (c : BackendCall) → c.Outcome × σ)

theorem isChange_deleteCalls (source : Candidate) (selected : List CrossServerMatch) :
    (deleteCalls source selected).filter (·.isChange) = deleteCalls source selected := by
  rw [List.filter_eq_self]
  intro c hc
  rcases List.mem_append.mp hc with hcopy | hsource
  · obtain ⟨id, -, rfl⟩ := List.mem_map.mp hcopy
    rfl
  · rw [List.mem_singleton.mp hsource]
    rfl

/-- All calls of a deletion change something; there are none when it is refused. -/
theorem isChange_delete (run : RunId) (source : Candidate) (selected : List CrossServerMatch)
    (s : σ) :
    ((delete run source selected).run answer s).1.calls.filter (·.isChange) =
      if ∃ m ∈ selected, m.itemId = source.item.id then [] else deleteCalls source selected := by
  split_ifs with hself
  · rw [delete_of_mem run hself]
    rfl
  · have hother : ∀ m ∈ selected, m.itemId ≠ source.item.id := fun m hm h => hself ⟨m, hm, h⟩
    rw [calls_delete answer run s hother]
    exact isChange_deleteCalls source selected

/-- No copy is deleted twice, and none in the way the item is. -/
theorem nodup_deleteCalls (source : Candidate) (selected : List CrossServerMatch) :
    (deleteCalls source selected).Nodup := by
  have hcopies : (copyCalls source selected).Nodup :=
    (nodup_eraseDups _).map fun i j h => by cases h; rfl
  refine List.nodup_append.mpr ⟨hcopies, List.nodup_singleton _, ?_⟩
  intro c hc d hd hcd
  obtain ⟨id, -, rfl⟩ := List.mem_map.mp hc
  rw [List.mem_singleton.mp hd] at hcd
  cases hcd

end CrossServer

namespace ServiceOperation

theorem nodup_changes (o : ServiceOperation) : o.changes.Nodup := by
  cases o with
  | sync rule => exact rule.nodup_syncKeys.map fun i j h => by cases h; rfl
  | deleteSelected b cancelAt =>
      rw [changes]
      split_ifs
      · exact List.nodup_nil
      · exact List.nodup_singleton _
  | deleteWithMatches source selected =>
      rw [changes]
      split_ifs
      · exact List.nodup_nil
      · exact CrossServer.nodup_deleteCalls source selected
  | findMatches | cancelDelete | shutdown => exact List.nodup_nil

end ServiceOperation

namespace Coordinator

/-- A run that is started requests the distinct ids. -/
theorem exists_requested (c : Coordinator) (ruleId : Int64) {ids : List Int64} (hne : ids ≠ []) :
    ∃ n, (c.start ruleId ids).requested = some (n, ruleId, ids.eraseDups) := by
  have hdistinct : distinct ids ≠ [] := mt distinct_eq_nil.mp hne
  rw [start, ← distinct_eq]
  split
  · contradiction
  · exact ⟨_, rfl⟩

end Coordinator

namespace Scenario.World

section
variable {β : Type} [Answers β]

/-- Carries out an operation to its end. -/
def operate (w : World β) : ServiceOperation → World β
  | .sync rule => (w.sync rule).2
  | .deleteSelected b cancelAt => (w.deleteSelected b cancelAt).2.2
  | .findMatches item => (w.perform (CrossServer.findMatches item)).2
  | .deleteWithMatches source selected => (w.deleteWithMatches source selected).2
  | .cancelDelete => (w.act .cancel).2.settle
  | .shutdown => w.shutdown

/-- A sync hands a launch that came to its end to the tracker as it is then. -/
theorem exists_sync (w : World β) (rule : Rule) :
    ∃ reply trace tracker, Launch.run rule reply rule.syncKeys = some trace ∧
      (w.sync rule).1 = (Service.handOver tracker rule trace.result).1 ∧
      Makes w (w.sync rule).2 (rule.syncKeys.map .startSync) := by
  obtain ⟨reply, trace, hrun, hresult, hlaunch⟩ := exists_launch w rule
  rw [sync]
  generalize w.launch rule = launched at hresult hlaunch ⊢
  obtain ⟨result, w'⟩ := launched
  have htracked : Makes w' { w' with tracker := (Service.handOver w'.tracker rule result).2 } [] :=
    makes_of_backend_eq rfl
  exact ⟨reply, trace, w'.tracker, hrun, by rw [← hresult],
    (hlaunch.quiet htracked).quiet (makes_settle _)⟩

theorem makes_cancel (w : World β) : Makes w (w.act .cancel).2.settle [] :=
  (makes_of_backend_eq (backend_act w .cancel)).quiet (makes_settle _)

theorem makes_startRun (w : World β) (ruleId : Int64) {ids : List Int64} (hne : ids ≠ []) :
    Makes w (w.startRun ruleId ids).2 [.bulkDelete ruleId ids.eraseDups] := by
  obtain ⟨n, hrequested⟩ : ∃ n, (w.act (.start ruleId ids)).1.requested =
      some (n, ruleId, ids.eraseDups) := w.coordinator.exists_requested ruleId hne
  have hstart : Makes w (w.act (.start ruleId ids)).2 [] := makes_of_backend_eq (backend_act ..)
  rw [startRun]
  generalize w.act (.start ruleId ids) = acted at hrequested hstart
  obtain ⟨effect, started⟩ := acted
  dsimp only at hrequested ⊢
  rw [hrequested]
  exact (hstart.trans (makes_ask ..)).quiet
    (makes_of_backend_eq ((backend_pumpRun ..).trans (backend_setWait ..)))

theorem makes_runDeletion (cancelAt : Option Nat) (ruleId : Int64) {ids : List Int64}
    (hne : ids ≠ []) (w : World β) :
    Makes w (runDeletion cancelAt ruleId ids w).2 [.bulkDelete ruleId ids.eraseDups] := by
  have hstart := makes_startRun w ruleId hne
  rw [runDeletion]
  split
  · rename_i hrun
    rwa [hrun] at hstart
  · rename_i hrun
    rw [hrun] at hstart
    exact hstart.quiet (makes_await ..)

/-- After a deletion, nothing is asked for but the page of the browser. -/
theorem makes_afterDelete (w : World β) (b : Browser) (r : RunResult) :
    Makes w (w.perform (Service.afterDelete b r)).2 [] := by
  obtain ⟨replies, -, hmakes⟩ := exists_perform (Service.afterDelete b r) w
  by_cases hchanged : ∃ o, r = .ok o ∧ o.needsRefresh = true
  · obtain ⟨o, rfl, hrefresh⟩ := hchanged
    rwa [Service.run_afterDelete_changed _ hrefresh] at hmakes
  · have hsame : ∀ o, r = .ok o → o.needsRefresh = false := fun o ho =>
      Bool.eq_false_iff.mpr fun hrefresh => hchanged ⟨o, ho, hrefresh⟩
    rwa [Service.run_afterDelete_unchanged _ hsame] at hmakes

theorem makes_deleteSelection (w : World β) (b : Browser) (cancelAt : Option Nat) :
    Makes w (Service.deleteSelected (runDeletion cancelAt) (fun p w => w.perform p) b w).2
      (if b.selection.isEmpty then [] else [.bulkDelete b.ruleId b.selection.ids]) := by
  rw [Service.deleteSelected]
  split_ifs with hempty
  · rw [Service.submission_of_empty hempty]
    exact makes_of_backend_eq rfl
  · have hne : b.selection.ids ≠ [] := mt Selection.isEmpty_iff.mpr hempty
    have hrun := makes_runDeletion cancelAt b.ruleId hne w
    rw [Selection.eraseDups_ids] at hrun
    rw [Service.submission_of_selected hempty]
    exact hrun.quiet (makes_afterDelete ..)

/-- A cancellation that is still to come is waited for, and changes nothing. -/
theorem makes_deleteSelected (w : World β) (b : Browser) (cancelAt : Option Nat) :
    Makes w (w.deleteSelected b cancelAt).2.2
      (if b.selection.isEmpty then [] else [.bulkDelete b.ruleId b.selection.ids]) := by
  have hdeleted := makes_deleteSelection w b cancelAt
  rw [deleteSelected]
  generalize (Service.deleteSelected (runDeletion cancelAt) (fun p w => w.perform p) b w) =
    deleted at hdeleted ⊢
  obtain ⟨⟨result, b'⟩, w'⟩ := deleted
  cases cancelAt with
  | none => exact hdeleted
  | some t =>
      dsimp only
      by_cases hlater : w'.now < t
      · rw [if_pos hlater]
        exact (hdeleted.quiet (makes_advanceTo w' t)).quiet (makes_cancel _)
      · rw [if_neg hlater]
        exact hdeleted

theorem makes_deleteWithMatches (w : World β) (source : Candidate)
    (selected : List CrossServerMatch) :
    Makes w (w.deleteWithMatches source selected).2
      (if ∃ m ∈ selected, m.itemId = source.item.id then []
        else CrossServer.deleteCalls source selected) := by
  let counted : World β := { w with crossRuns := w.crossRuns + 1 }
  have hcounted : Makes w counted [] := makes_of_backend_eq rfl
  obtain ⟨replies, -, hmakes⟩ := exists_perform
    (CrossServer.delete (CrossServer.runId (w.crossRuns + 1)) source selected) counted
  rw [CrossServer.isChange_delete] at hmakes
  exact hcounted.trans hmakes

/-- An operation changes what it says, whatever else is in flight. -/
theorem makes_operate (w : World β) (o : ServiceOperation) : Makes w (w.operate o) o.changes := by
  cases o with
  | sync rule =>
      obtain ⟨-, -, -, -, -, hmakes⟩ := exists_sync w rule
      exact hmakes
  | deleteSelected b cancelAt => exact makes_deleteSelected w b cancelAt
  | findMatches item =>
      obtain ⟨replies, -, hmakes⟩ := exists_perform (CrossServer.findMatches item) w
      exact hmakes
  | deleteWithMatches source selected => exact makes_deleteWithMatches w source selected
  | cancelDelete => exact makes_cancel w
  | shutdown =>
      have hstopped : Makes w { w with tracker := w.tracker.shutdown } [] :=
        makes_of_backend_eq rfl
      exact hstopped.trans (makes_cancel _)

end

end Scenario.World

/-! ### Requests -/

namespace Scenario

/-- A client that carries out the requests of a backend and keeps them in the order in which they
were sent.  Its response to the last of them may depend on all. -/
structure HttpClient where
  backend : HttpBackend
  respond : List Http.Sent → HttpReply
  sent : List Http.Sent := []

namespace HttpClient

/-- Sends the request of a call, and interprets the response. -/
def ask (client : HttpClient) (c : BackendCall) : Reply (Timed c) × HttpClient :=
  let sent := client.sent ++ [client.backend.request c]
  ((client.respond sent).interpret c, { client with sent := sent })

instance : Answers HttpClient := ⟨ask⟩

/-- Every call sends its own request, and nothing else does. -/
theorem after_calls (calls : List BackendCall) (client : HttpClient) :
    Answers.after calls client =
      { client with sent := client.sent ++ calls.map client.backend.request } := by
  induction calls generalizing client with
  | nil => rw [List.map_nil, List.append_nil]; rfl
  | cons c rest ih =>
      rw [Answers.after, List.foldl_cons, ← Answers.after, ih, List.map_cons]
      show { client with sent := client.sent ++ [_] ++ _ } = _
      rw [List.append_assoc, List.singleton_append]
      rfl

end HttpClient

end Scenario

namespace ServiceOperation

open HttpBackend (Carries startBody deleteBody deletePath idText)

/-- The requests that an operation is to send to change something. -/
def Sends (b : HttpBackend) (sent : List Http.Sent) : ServiceOperation → Prop
  | .sync rule =>
      ∃ keys : List SyncKey, keys.Nodup ∧ (∀ k, k ∈ keys ↔ ∃ l ∈ rule.libraries, l.syncKey = k) ∧
        List.Forall₂ (fun key s => Carries s (.retry 1) .post (b.baseUrl ++ "/api/sync/libraries")
          (some (startBody key))) keys sent
  | .deleteSelected browser _ =>
      ∃ ids : List Int64, ids.Nodup ∧ (∀ id, id ∈ ids ↔ browser.selection.contains id = true) ∧
        if ids = [] then sent = []
        else ∃ s, sent = [s] ∧ Carries s .stream .post
          (b.baseUrl ++ ("/api/rules/" ++ idText browser.ruleId ++ "/candidates/delete"))
          (some (deleteBody ids))
  | .deleteWithMatches source selected =>
      if ∃ m ∈ selected, m.itemId = source.item.id then sent = []
      else ∃ (ids : List Int64) (copies : List Http.Sent) (last : Http.Sent),
        ids.Nodup ∧ (∀ id, id ∈ ids ↔ ∃ m ∈ selected, m.itemId = id) ∧ sent = copies ++ [last] ∧
        List.Forall₂ (fun id s => Carries s (.retry 1) .delete
          (b.baseUrl ++ deletePath id (some source.item.id)) none) ids copies ∧
        Carries last (.retry 1) .delete (b.baseUrl ++ deletePath source.item.id none) none
  | .findMatches _ | .cancelDelete | .shutdown => sent = []

/-- The calls of an operation make the requests it is to send. -/
theorem sends_changes (b : HttpBackend) (o : ServiceOperation) :
    o.Sends b (o.changes.map b.request) := by
  cases o with
  | sync rule =>
      refine ⟨rule.syncKeys, rule.nodup_syncKeys, fun k => ?_, ?_⟩
      · rw [Rule.syncKeys, List.mem_eraseDups, List.mem_map]
      · rw [changes, List.map_map, List.forall₂_map_right_iff, List.forall₂_same]
        exact fun key _ => b.carries_startSync key
  | deleteSelected browser cancelAt =>
      refine ⟨browser.selection.ids, browser.selection.pairwise_ids.imp Std.ne_of_lt,
        fun id => Selection.mem_ids, ?_⟩
      rw [changes]
      simp only [Selection.isEmpty_iff]
      split_ifs
      · rfl
      · exact ⟨_, rfl, b.carries_bulkDelete ..⟩
  | deleteWithMatches source selected =>
      rw [Sends, changes]
      split_ifs
      · rfl
      · refine ⟨CrossServer.copyIds selected, (CrossServer.copyCalls source selected).map b.request,
          b.request (CrossServer.sourceCall source), nodup_eraseDups _, fun id => ?_,
          List.map_append, ?_, b.carries_deleteLibraryItem ..⟩
        · rw [CrossServer.copyIds, List.mem_eraseDups, List.mem_map]
        · rw [CrossServer.copyCalls, List.map_map, List.forall₂_map_right_iff, List.forall₂_same]
          exact fun id _ => b.carries_deleteLibraryItem id (some source.item.id)
  | findMatches | cancelDelete | shutdown => rfl

end ServiceOperation

namespace Scenario.World

/-- **Whatever the client answers, nothing is sent twice that changes something.**  A sync sends one
request for each key, a deletion across servers one for each copy and then one for the item, and a
deletion of what is selected a single one, which is streamed; a request that changes something is
given one attempt otherwise, and only queries are executed plainly. -/
theorem sent_once (w : World HttpClient) (o : ServiceOperation) :
    ∃ sent, (w.operate o).backend.sent = w.backend.sent ++ sent ∧
      o.Sends w.backend.backend (sent.filter (·.isChange)) ∧
      (sent.filter (·.isChange)).Nodup ∧ ∀ s ∈ sent, s.CarriedOnce := by
  obtain ⟨calls, hafter, hchanges⟩ := makes_operate w o
  let b := w.backend.backend
  have hfilter : (calls.map b.request).filter (·.isChange) = o.changes.map b.request := by
    rw [List.filter_map, ← hchanges]
    exact congrArg _ (List.filter_congr fun c _ => b.isChange_request c)
  refine ⟨calls.map b.request, by rw [hafter, HttpClient.after_calls], ?_, ?_, ?_⟩
  · rw [hfilter]
    exact o.sends_changes b
  · rw [hfilter]
    refine o.nodup_changes.map_on fun c hc d hd h => b.request_injective ?_ ?_ h
    · exact (List.mem_filter.mp (hchanges ▸ hc)).2
    · exact (List.mem_filter.mp (hchanges ▸ hd)).2
  · intro s hs
    obtain ⟨c, -, rfl⟩ := List.mem_map.mp hs
    exact b.carriedOnce_request c

/-- The server fails at everything, and a copy is chosen twice. -/
example :
    let w : World HttpClient := {
      backend := {
        backend := .ofUrl "http://monitor/" none (.ofSeconds 30)
        respond := fun _ => { status := 500 } }
      bus := { capacity := 1 } }
    let item : LibraryItem := { (default : LibraryItem) with id := 10 }
    let source : Candidate := { (default : Candidate) with item := item }
    let copy : CrossServerMatch := { (default : CrossServerMatch) with itemId := 20 }
    (w.operate (.deleteWithMatches source [copy, copy])).backend.sent.map
        (fun s => (s.carriage, s.request.method, s.request.url)) =
      [(.retry 1, .delete, "http://monitor/api/library/items/20?source_item_id=10"),
        (.retry 1, .delete, "http://monitor/api/library/items/10")] := by
  decide +kernel

end Scenario.World

end MediaMonitor
