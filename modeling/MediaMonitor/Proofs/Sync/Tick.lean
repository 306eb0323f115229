import MediaMonitor.Proofs.Sync.View
import MediaMonitor.Proofs.SortedMap

/-!
# One snapshot

A snapshot divides the tracked rules by whether one of their syncs is at work.  The rules that have
one stay, and the status lines are theirs and no other's; the others retire, each with the errors of
its failed syncs (`TableRun.rules_after_snapshot`).
-/

namespace MediaMonitor

/-! ### The report -/

namespace SyncTable

/-- What a rule retires with. -/
def retirement (s : SyncSnapshot) (e : Int64 × SyncOperation) : RetiredOperation :=
  ⟨e.1, (e.2.failing s).map (fun k => ⟨k.libraryName, SyncOperation.reason s k⟩), e.2.keys.length⟩

section
variable {s : SyncSnapshot}

theorem retired_visit (found : TickReport × SortedMap Int64 String) (e : Int64 × SyncOperation) :
    (visit s found e).1.retired =
      found.1.retired ++ if e.2.active s then [] else [retirement s e] := by
  obtain ⟨report, statuses⟩ := found
  rw [← SyncOperation.isSome_status?, retirement, ← SyncOperation.errors_eq, visit]
  cases hline : e.2.status? s with
  | none => rfl
  | some line =>
      by_cases hsame : statuses.find? e.1 = some line <;> simp [hsame]

/-- The visits retire the rules without a job at work, in the order in which they are visited. -/
theorem retired_foldl_visit (l : List (Int64 × SyncOperation))
    (found : TickReport × SortedMap Int64 String) :
    (l.foldl (visit s) found).1.retired =
      found.1.retired ++ (l.filter (fun e => !e.2.active s)).map (retirement s) := by
  induction l generalizing found with
  | nil => exact (List.append_nil _).symm
  | cons e rest ih =>
      rw [List.foldl_cons, ih, retired_visit]
      by_cases h : e.2.active s <;> simp [h]

/-- The line of one of the operations. -/
def lineOf (s : SyncSnapshot) (e : Int64 × SyncOperation) : Option (Int64 × String) :=
  (e.2.status? s).map (fun line => (e.1, line))

/-- The line is not among the given ones. -/
def isNew (statuses : SortedMap Int64 String) (u : Int64 × String) : Bool :=
  statuses.find? u.1 ≠ some u.2

theorem updates_visit (found : TickReport × SortedMap Int64 String) (e : Int64 × SyncOperation) :
    (visit s found e).1.updates =
      found.1.updates ++ (lineOf s e).toList.filter (isNew found.2) := by
  obtain ⟨report, statuses⟩ := found
  rw [visit, lineOf]
  cases hline : e.2.status? s with
  | none => simp
  | some line =>
      by_cases hsame : statuses.find? e.1 = some line <;> simp [hsame, isNew]

/-- The visits report the lines that are not those from before, in the order of the visits. -/
theorem updates_foldl_visit {l : List (Int64 × SyncOperation)}
    (hl : l.Pairwise (fun d e => d.1 < e.1)) (found : TickReport × SortedMap Int64 String) :
    (l.foldl (visit s) found).1.updates =
      found.1.updates ++ (l.filterMap (lineOf s)).filter (isNew found.2) := by
  induction l generalizing found with
  | nil => exact (List.append_nil _).symm
  | cons e rest ih =>
      obtain ⟨he, hrest⟩ := List.pairwise_cons.mp hl
      -- the visit sets no line but that of its own rule, which is not visited again
      have hsame : ∀ u ∈ rest.filterMap (lineOf s),
          isNew (visit s found e).2 u = isNew found.2 u := by
        intro u hu
        obtain ⟨d, hd, hline⟩ := List.mem_filterMap.mp hu
        obtain ⟨line, -, rfl⟩ := Option.map_eq_some_iff.mp hline
        rw [isNew, isNew, (visit_other found (Std.ne_of_lt (he d hd))).2.2]
      rw [List.foldl_cons, ih hrest, updates_visit, List.filter_congr hsame, List.append_assoc,
        ← List.filter_append]
      congr 2
      rw [List.filterMap_cons]
      cases lineOf s e <;> rfl

end

/-! ### The table after a snapshot -/

variable (t : SyncTable) (s : SyncSnapshot)

/-- The rules with a job at work stay, with their operations. -/
theorem operations_applySnapshot :
    (t.applySnapshot s).2.operations = t.operations.filter (fun _ op => op.active s) := by
  refine SortedMap.eq_of_find? fun r => ?_
  rw [SortedMap.find?_filter]
  cases t.seen s r with
  | untracked hop _ _ hop' => rw [hop', hop]; rfl
  | kept op line hop hline _ _ hop' =>
      rw [hop', hop, Option.filter_some, ← SyncOperation.isSome_status?, hline]
      rfl
  | retired op hop hline _ _ hop' =>
      rw [hop', hop, Option.filter_some, ← SyncOperation.isSome_status?, hline]
      rfl

theorem retired_applySnapshot :
    (t.applySnapshot s).1.retired =
      (t.operations.entries.filter (fun e => !e.2.active s)).map (retirement s) :=
  retired_foldl_visit t.operations.entries ({}, t.statuses)

/-- Rules without a job at work have no line. -/
theorem filterMap_active (operations : SortedMap Int64 SyncOperation) :
    (operations.filter (fun _ op => op.active s)).filterMap (fun _ op => op.status? s) =
      operations.filterMap (fun _ op => op.status? s) := by
  refine SortedMap.eq_of_find? fun r => ?_
  rw [SortedMap.find?_filterMap, SortedMap.find?_filterMap, SortedMap.find?_filter]
  cases operations.find? r with
  | none => rfl
  | some op =>
      rw [Option.filter_some]
      cases hactive : op.active s with
      | true => rfl
      | false => exact (SyncOperation.status?_eq_none.mpr hactive).symm

variable {t} in
/-- Where untracked rules had no line, the lines afterwards are those of the operations, whatever
they were before, and the new ones among them are reported. -/
theorem lines_applySnapshot
    (h : ∀ r, t.operations.find? r = none → t.statuses.find? r = none) :
    (t.applySnapshot s).2.statuses = t.operations.filterMap (fun _ op => op.status? s) ∧
      (t.applySnapshot s).1.updates =
        (t.applySnapshot s).2.statuses.entries.filter (isNew t.statuses) := by
  have hlines : (t.applySnapshot s).2.statuses =
      t.operations.filterMap (fun _ op => op.status? s) := by
    refine SortedMap.eq_of_find? fun r => ?_
    rw [SortedMap.find?_filterMap]
    exact find?_statuses_applySnapshot (h r) s
  refine ⟨hlines, ?_⟩
  rw [hlines]
  exact updates_foldl_visit t.operations.sorted ({}, t.statuses)

end SyncTable

namespace TableRun

/-- **A snapshot divides the rules of a table by whether one of their syncs is at work.**  The rules
that have one stay with their operations, and the lines are theirs and no other's; the lines that
are new are reported.  The others retire, each with its number of keys and with the errors of its
failed syncs.  Both reports are in ascending order, and no rule is in one of them twice.  The line
of a rule describes its first job in the items phase, or else its first in the history phase: it
says which phase that is and how far the job is, and names the library if and only if the rule has
several keys. -/
theorem rules_after_snapshot (actions : List TableAction) (s : SyncSnapshot) :
    let t := (of actions).table
    let report := (t.applySnapshot s).1
    let t' := (t.applySnapshot s).2
    t'.operations = t.operations.filter (fun _ op => op.active s) ∧
      t'.statuses = t'.operations.filterMap (fun _ op => op.status? s) ∧
      report.retired =
        (t.operations.entries.filter (fun e => !e.2.active s)).map (SyncTable.retirement s) ∧
      (report.retired.map (·.ruleId)).Pairwise (· < ·) ∧
      report.updates = t'.statuses.entries.filter (SyncTable.isNew t.statuses) ∧
      (report.updates.map (·.1)).Pairwise (· < ·) ∧
      ∀ r op, t'.operations.find? r = some op →
        ∃ k job text line, op.Describes s k ∧ s.get? k.key = some job ∧ job.Says text ∧
          t'.statuses.find? r = some line ∧
          (line = k.libraryName ++ ": " ++ text ↔ 1 < op.keys.length) ∧
          (line = text ↔ op.keys.length ≤ 1) := by
  intro t report t'
  have hoperations := t.operations_applySnapshot s
  have hretired := t.retired_applySnapshot s
  obtain ⟨hlines, hupdates⟩ :=
    SyncTable.lines_applySnapshot s (fun r => ((reported actions).rule r).tracked)
  have hkept : t'.statuses = t'.operations.filterMap (fun _ op => op.status? s) := by
    rw [hlines, hoperations, SyncTable.filterMap_active]
  refine ⟨hoperations, hkept, hretired, ?_, hupdates, ?_, ?_⟩
  · rw [hretired, List.map_map]
    exact t.operations.pairwise_keys.sublist (List.filter_sublist.map _)
  · rw [hupdates]
    exact t'.statuses.pairwise_keys.sublist (List.filter_sublist.map _)
  · intro r op hop
    have hactive : op.active s := by
      rw [hoperations, SortedMap.find?_filter, Option.filter_eq_some_iff] at hop
      exact hop.2
    rw [← SyncOperation.isSome_status?] at hactive
    obtain ⟨line, hline⟩ := Option.isSome_iff_exists.mp hactive
    obtain ⟨k, job, hdescribes, hjob, rfl⟩ := SyncOperation.exists_describes hline
    have hsays := SyncJobState.says_line (SyncOperation.phase_of_describes hdescribes hjob)
    refine ⟨k, job, job.line, _, hdescribes, hjob, hsays, ?_, op.lineFor_eq_iff k job⟩
    rw [hkept, SortedMap.find?_filterMap, hop, Option.bind_some, hline]

/-- Of three rules one has a new line, one keeps its line, and one retires.  The new line is that of
the second key, which is in the items phase, and tells how far its job is. -/
theorem rules_after_mixed_snapshot :
    let movies : TrackedKey := ⟨⟨1, "movies"⟩, "Movies"⟩
    let shows : TrackedKey := ⟨⟨2, "shows"⟩, "Shows"⟩
    let job (phase : SyncPhase) : SyncJobState := ⟨phase, none, none, none⟩
    let shown : SyncJobState := ⟨.items, some 3, some 10, none⟩
    let first : SyncSnapshot := ⟨.ofList [("1:movies", job .items), ("3:music", job .history)]⟩
    let s : SyncSnapshot := ⟨.ofList [("1:movies", job .history), ("2:shows", shown),
      ("3:music", job .history), ("4:books", ⟨.error, none, none, some "timeout"⟩)]⟩
    let actions : List TableAction := [.insert (.ofKeys 5 [movies, shows]),
      .insert (.ofKeys 7 [⟨⟨3, "music"⟩, "Music"⟩]), .snapshot first,
      .insert (.ofKeys 9 [⟨⟨4, "books"⟩, "Books"⟩])]
    let report := ((of actions).table.applySnapshot s).1
    let t' := ((of actions).table.applySnapshot s).2
    t'.statuses.entries =
        [(5, "Shows: Syncing items 3/10"), (7, "Syncing watch history...")] ∧
      report.updates = [(5, "Shows: Syncing items 3/10")] ∧
      report.retired = [⟨9, [⟨"Books", "timeout"⟩], 1⟩] ∧
      ∃ text, shown.Says text ∧ t'.statuses.find? 5 = some ("Shows" ++ ": " ++ text) := by
  intro movies shows job shown first s actions report t'
  obtain ⟨-, -, hretired, -, hupdates, -, hlines⟩ := rules_after_snapshot actions s
  have hstatuses : t'.statuses.entries =
      [(5, "Shows: Syncing items 3/10"), (7, "Syncing watch history...")] := by decide +kernel
  have hop : t'.operations.find? 5 = some (.ofKeys 5 [movies, shows]) := by decide +kernel
  obtain ⟨k, job', text, line, hdescribes, hjob, hsays, hline, hnames, -⟩ := hlines 5 _ hop
  have hkey : k = shows := by
    have hfound : (SyncOperation.ofKeys 5 [movies, shows]).keys.find?
        (SyncOperation.inPhase s .items) = some shows := by decide +kernel
    rcases hdescribes with hitems | ⟨hnone, -⟩
    · exact Option.some.inj (hitems.symm.trans hfound)
    · have hshows := hnone shows (List.mem_of_find?_eq_some hfound)
      rw [List.find?_some hfound] at hshows
      cases hshows
  subst hkey
  have hshown : s.get? shows.key = some shown := by decide +kernel
  cases hjob.symm.trans hshown
  have hname : line = "Shows" ++ ": " ++ text := hnames.mpr (by decide +kernel)
  refine ⟨hstatuses, ?_, ?_, text, hsays, hname ▸ hline⟩
  · rw [hupdates, hstatuses]
    decide +kernel
  · rw [hretired]
    decide +kernel

end TableRun

end MediaMonitor
