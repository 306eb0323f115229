import MediaMonitor.Proofs.Sync.Keys
import MediaMonitor.Proofs.Sync.Launch
import MediaMonitor.Service

/-!
# From a launch to the tracker

What a launch has in flight is handed to the tracker as one operation, which waits for the keys that
were started and then for those that were joined (`Service.hand_over`).  There is one at least and
none comes twice, so the operation takes them as they are, and a tracker that runs does not refuse
it.  Each has the name of the first library of its key, under which its failure would be told as
well.
-/

namespace MediaMonitor

/-- A key of a rule is that of one of its libraries, the first of which gives the name. -/
theorem Rule.exists_library {rule : Rule} {k : SyncKey} (hk : k ∈ rule.syncKeys) :
    ∃ l, rule.libraries.find? (·.syncKey = k) = some l ∧ rule.libraryName k = l.libraryName := by
  rw [← map_syncKey_distinctLibraries] at hk
  obtain ⟨l, hl, rfl⟩ := List.mem_map.mp hk
  exact ⟨l, find?_of_mem_distinctLibraries hl, libraryName_of_mem_distinctLibraries hl⟩

namespace Launch

open StartAnswer (failure?)

variable {rule : Rule} {reply : SyncKey → StartAnswer}

theorem nodup_trackedKeys (rule : Rule) (reply : SyncKey → StartAnswer) :
    (reportOn rule reply rule.syncKeys).trackedKeys.Nodup := by
  have hall : ((reportOn rule reply rule.syncKeys).trackedKeys ++
      (reportOn rule reply rule.syncKeys).failures.map (·.key)).Nodup :=
    (perm_reportOn _).nodup_iff.mpr rule.nodup_syncKeys
  exact (List.nodup_append.mp hall).1

/-- A key in flight is one of the rule. -/
theorem mem_syncKeys_of_tracked {k : SyncKey}
    (hk : k ∈ (reportOn rule reply rule.syncKeys).trackedKeys) : k ∈ rule.syncKeys :=
  (perm_reportOn rule.syncKeys).mem_iff.mp (List.mem_append_left _ hk)

/-- A launch to which all replies have come is at its end: it reports on the replies if anything is
in flight, and tells of every failure. -/
theorem exists_run (reply : SyncKey → StartAnswer) {order : List SyncKey}
    (horder : order.Perm rule.syncKeys) :
    ∃ trace, run rule reply order = some trace ∧
      (∀ report, trace.result = .ok report →
        report = reportOn rule reply rule.syncKeys ∧ report.trackedKeys ≠ []) ∧
      ∀ f ∈ (reportOn rule reply rule.syncKeys).failures, failureEvent rule f ∈ trace.events := by
  by_cases hempty : rule.libraries = []
  · refine ⟨{ result := .error _ }, by rw [run, start_eq, if_pos hempty],
      fun report hreport => (by cases hreport), ?_⟩
    rw [Rule.syncKeys_eq_nil.mpr hempty]
    exact fun f hf => absurd hf List.not_mem_nil
  · have hanswered : ∀ k ∈ rule.syncKeys, k ∈ order := fun k hk => horder.mem_iff.mpr hk
    simp only [run, start_eq, if_neg hempty, conclude?_unanswered hanswered, Option.map_some]
    refine ⟨_, rfl, ?_⟩
    by_cases hall : ∀ k ∈ rule.syncKeys, (failure? (reply k)).isSome
    · rw [if_pos hall]
      exact ⟨fun report hreport => (by cases hreport), fun f hf => List.mem_map_of_mem hf⟩
    · rw [if_neg hall]
      refine ⟨fun report hreport => ?_, fun f hf => ?_⟩
      · cases hreport
        exact ⟨rfl, fun hnone => hall (trackedKeys_reportOn.mp hnone)⟩
      · exact List.mem_append_left _ (List.mem_map_of_mem hf)

/-- A key that fails is told of under the name that the rule has for it. -/
theorem mem_failures {k : SyncKey} {e : MaintenanceError} (hk : k ∈ rule.syncKeys)
    (he : failure? (reply k) = some e) :
    ⟨k, rule.libraryName k, e.message⟩ ∈ (reportOn rule reply rule.syncKeys).failures :=
  List.mem_filterMap.mpr ⟨k, hk, by rw [he]; rfl⟩

end Launch

namespace SyncOperation

/-- The operation of distinct keys takes them as they are. -/
theorem keys_ofLaunch (rule : Rule) {report : LaunchReport} (hnodup : report.trackedKeys.Nodup) :
    (ofLaunch rule report).keys = report.trackedKeys.map (fun k => ⟨k, rule.libraryName k⟩) := by
  have hkeys : ((report.trackedKeys.map (fun k => TrackedKey.mk k (rule.libraryName k))).map
      (·.key)).Nodup := by
    rwa [List.map_map, show (TrackedKey.key ∘ fun k => ⟨k, rule.libraryName k⟩) = id from rfl,
      List.map_id]
  rw [ofLaunch, ofKeys, merge]
  exact (foldl_addKey_distinctBy [] _).trans
    (distinctBy_of_nodup hkeys (fun _ _ => List.not_mem_nil))

end SyncOperation

namespace Service

open StartAnswer (failure?)

/-- **What a launch has in flight is handed to a running tracker as one operation**, and nothing is
handed over when the launch fails.  The operation is of the rule and waits for the keys that were
started and those that were joined, none of them twice, and at least for one.  Each has the name of
the first library of its key; under the same name a launch tells of the key when it fails. -/
theorem hand_over {t : Tracker} (hrunning : t.phase ≠ .stopped) {rule : Rule}
    (reply : SyncKey → StartAnswer) {order : List SyncKey} (horder : order.Perm rule.syncKeys) :
    ∃ trace, Launch.run rule reply order = some trace ∧
      (∀ e, trace.result = .error e → handOver t rule trace.result = (.error e, t)) ∧
      ∀ report, trace.result = .ok report → ∃ op : SyncOperation,
        handOver t rule trace.result = (.ok report, { t with queue := t.queue ++ [op] }) ∧
        op.ruleId = rule.id ∧ op.keys ≠ [] ∧
        op.keys.map (·.key) = report.started ++ report.joined ∧ (op.keys.map (·.key)).Nodup ∧
        ∀ k ∈ op.keys,
          (∃ l, rule.libraries.find? (·.syncKey = k.key) = some l ∧
            k.libraryName = l.libraryName) ∧
          ∀ (other : SyncKey → StartAnswer) (e : MaintenanceError),
            failure? (other k.key) = some e → ∀ order', order'.Perm rule.syncKeys →
              ∃ trace', Launch.run rule other order' = some trace' ∧
                .sync (.startFailed rule.id k.libraryName e.message) ∈ trace'.events ∧
                ∀ report', trace'.result = .ok report' →
                  ⟨k.key, k.libraryName, e.message⟩ ∈ report'.failures := by
  obtain ⟨trace, hrun, hreported, -⟩ := Launch.exists_run reply horder
  refine ⟨trace, hrun, fun e he => by rw [he]; rfl, fun report hreport => ?_⟩
  obtain ⟨rfl, htracked⟩ := hreported report hreport
  have hnodup := Launch.nodup_trackedKeys rule reply
  set report := Launch.reportOn rule reply rule.syncKeys
  have hkeys := SyncOperation.keys_ofLaunch rule hnodup
  have hmap : (SyncOperation.ofLaunch rule report).keys.map (·.key) = report.trackedKeys := by
    rw [hkeys, List.map_map]
    exact List.map_id _
  have hne : (SyncOperation.ofLaunch rule report).keys ≠ [] := fun h =>
    htracked (by rw [← hmap, h]; rfl)
  refine ⟨.ofLaunch rule report, ?_, rfl, hne, hmap, hmap ▸ hnodup, fun k hk => ?_⟩
  · rw [hreport, handOver, Tracker.track, if_neg hne, if_neg hrunning]
  · rw [hkeys] at hk
    obtain ⟨key, hkey, rfl⟩ := List.mem_map.mp hk
    have hmem := Launch.mem_syncKeys_of_tracked hkey
    refine ⟨Rule.exists_library hmem, fun other e he order' horder' => ?_⟩
    obtain ⟨trace', hrun', hreported', htold⟩ := Launch.exists_run other horder'
    have hfailure := Launch.mem_failures hmem he
    refine ⟨trace', hrun', htold _ hfailure, fun report' hreport' => ?_⟩
    rwa [(hreported' report' hreport').1]

/-- Two libraries have one key, whose sync runs already; another one is started, and a third fails.
If the first had failed, it would have been told of under the same name. -/
theorem hand_over_joined :
    let films : SyncKey := ⟨1, "films"⟩
    let shows : SyncKey := ⟨2, "shows"⟩
    let kids : SyncKey := ⟨2, "kids"⟩
    let rule : Rule := ⟨7, "Old", [⟨1, "films", "Films"⟩, ⟨2, "shows", "Shows"⟩,
      ⟨1, "films", "4K"⟩, ⟨2, "kids", "Kids"⟩]⟩
    let reply (k : SyncKey) : StartAnswer :=
      if k = films then .ok .alreadyRunning
      else if k = shows then .ok .started else .error .cancelled
    let t : Tracker := { interval := 5000 }
    t.phase ≠ .stopped ∧ [kids, films, shows].Perm rule.syncKeys ∧
      ∃ trace report op, Launch.run rule reply [kids, films, shows] = some trace ∧
        handOver t rule trace.result = (.ok report, { t with queue := [op] }) ∧
        op.keys.map (·.key) = [shows, films] ∧ ⟨films, "Films"⟩ ∈ op.keys ∧
        ∃ trace', Launch.run rule (fun _ => .error .cancelled) [films, kids, shows] =
            some trace' ∧
          .sync (.startFailed 7 "Films" "Operation cancelled") ∈ trace'.events := by
  intro films shows kids rule reply t
  have hrunning : t.phase ≠ .stopped := by decide
  have horder : [kids, films, shows].Perm rule.syncKeys := by decide +kernel
  have horder' : [films, kids, shows].Perm rule.syncKeys := by decide +kernel
  obtain ⟨trace, hrun, -, hreported⟩ := hand_over hrunning reply horder
  have hresult : trace.result =
      .ok ⟨7, [shows], [films], [⟨kids, "Kids", "Operation cancelled"⟩]⟩ :=
    congrArg Procedure.Trace.result (Option.some.inj (hrun.symm.trans rfl))
  obtain ⟨op, hhanded, -, -, hkeys, -, hnamed⟩ := hreported _ hresult
  obtain ⟨⟨key, name⟩, hmem, rfl⟩ : ∃ k ∈ op.keys, k.key = films :=
    List.mem_map.mp (hkeys ▸ by decide)
  obtain ⟨⟨l, hfound, rfl⟩, htold⟩ := hnamed _ hmem
  cases Option.some.inj (hfound.symm.trans rfl : some l = some ⟨1, "films", "Films"⟩)
  obtain ⟨trace', hrun', hevent, -⟩ := htold (fun _ => .error .cancelled) .cancelled rfl _ horder'
  exact ⟨hrunning, horder, trace, _, op, hrun, hhanded, hkeys, hmem, trace', hrun', hevent⟩

end Service

end MediaMonitor
