import MediaMonitor.Proofs.Sync.Line
import MediaMonitor.Proofs.Sync.Stays

/-!
# Failed syncs

A sync that ends in error while others of its rule are at work is in a snapshot that does not retire
the rule.  The rule goes on waiting for the sync (`TableRun.awaits_of_stays`), but the error is not
kept: the errors of a retirement are those in the snapshot that retires the rule.  The failure is
among them if and only if that snapshot still lists the job (`TableRun.failure_listed_iff`).
-/

namespace MediaMonitor

open SyncOperation (inError reason)

namespace SyncOperation

/-- A rule that has a line has a job at work. -/
theorem exists_active {op : SyncOperation} {s : SyncSnapshot} {line : String}
    (h : op.status? s = some line) :
    ∃ k ∈ op.keys, ∃ job, s.get? k.key = some job ∧ job.phase.isActive := by
  have hactive : op.active s := by rw [← isSome_status?, h]; rfl
  obtain ⟨k, hk, hwork⟩ := List.any_eq_true.mp hactive
  obtain ⟨job, hjob⟩ := Option.isSome_iff_exists.mp (Option.isSome_of_any hwork)
  rw [atWork, hjob, Option.any_some] at hwork
  exact ⟨k, hk, job, hjob, hwork⟩

end SyncOperation

namespace SyncTable

/-- A rule retires with the errors in the snapshot that retires it. -/
theorem of_mem_retired {t : SyncTable} {s : SyncSnapshot} {x : RetiredOperation}
    (hx : x ∈ (t.applySnapshot s).1.retired) :
    ∃ op, t.operations.find? x.ruleId = some op ∧
      x = ⟨x.ruleId, op.errors s, op.keys.length⟩ := by
  have hmem : x ∈ (t.applySnapshot s).1.retiredOf x.ruleId :=
    List.mem_filter.mpr ⟨hx, decide_eq_true rfl⟩
  cases t.seen s x.ruleId with
  | untracked _ _ hnone => rw [hnone] at hmem; cases hmem
  | kept _ _ _ _ _ hnone => rw [hnone] at hmem; cases hmem
  | retired op hop _ _ hone =>
      rw [hone] at hmem
      exact ⟨op, hop, List.mem_singleton.mp hmem⟩

end SyncTable

namespace TableRun

/-- The rule waits for the sync. -/
def Awaits (h : TableRun) (r : Int64) (k : TrackedKey) : Prop :=
  ∃ op, h.table.operations.find? r = some op ∧ k ∈ op.keys

variable {h : TableRun} {r : Int64} {k : TrackedKey}

theorem of_concat (actions : List TableAction) (a : TableAction) :
    of (actions ++ [a]) = (of actions).step a :=
  List.foldl_concat ..

/-- A snapshot that does not retire a rule has a line for it. -/
theorem kept_of_stays {op : SyncOperation} {s : SyncSnapshot}
    (hop : h.table.operations.find? r = some op)
    (hstays : (h.step (.snapshot s)).table.contains r) :
    (h.step (.snapshot s)).table.operations.find? r = some op ∧
      ∃ line, op.status? s = some line := by
  have hseen : SyncTable.Seen h.table s r (h.table.applySnapshot s).1
    (h.step (.snapshot s)).table := h.table.seen s r
  rw [SyncTable.contains, SortedMap.contains] at hstays
  cases hseen with
  | untracked _ _ _ hop' => rw [hop'] at hstays; cases hstays
  | kept op' line hop' hline _ _ hkept =>
      cases hop.symm.trans hop'
      exact ⟨hkept, line, hline⟩
  | retired _ _ _ _ _ hop' => rw [hop'] at hstays; cases hstays

/-- A rule that stays in the table goes on waiting for its syncs. -/
theorem Awaits.step (hk : h.Awaits r k) {a : TableAction}
    (hstays : (h.step a).table.contains r) : (h.step a).Awaits r k := by
  obtain ⟨op, hop, hmem⟩ := hk
  cases a with
  | insert more =>
      have hfind := SyncTable.find?_insert h.table more r
      rw [hop] at hfind
      by_cases hrule : more.ruleId = r
      · rw [if_pos hrule] at hfind
        exact ⟨_, hfind, (SyncOperation.mem_foldl_addKey more.keys op.keys).1 k hmem⟩
      · rw [if_neg hrule] at hfind
        exact ⟨op, hfind, hmem⟩
  | snapshot s => exact ⟨op, (kept_of_stays hop hstays).1, hmem⟩

/-- A rule waits for a sync as long as it stays in the table. -/
theorem awaits_of_stays {before past : List TableAction} (hbefore : before <+: past)
    (hk : (of before).Awaits r k)
    (hstays : ∀ p, before <+: p → p <+: past → (of p).table.contains r) :
    (of past).Awaits r k := by
  obtain ⟨more, rfl⟩ := hbefore
  induction more using List.reverseRecOn with
  | nil => rwa [List.append_nil]
  | append_singleton more a ih =>
      rw [← List.append_assoc] at hstays ⊢
      have hlast := hstays _ ((List.prefix_append ..).trans (List.prefix_append ..)) List.prefix_rfl
      rw [of_concat] at hlast ⊢
      exact (ih (fun p hp hpast => hstays p hp (hpast.trans (List.prefix_append ..)))).step hlast

/-- A sync that the rule waits for fails in the snapshot `first`, and from there on to the snapshot
`last` that follows the actions `past` the rule stays in the table and no snapshot shows the job in
another phase. -/
structure Failing (before : List TableAction) (first : SyncSnapshot) (since past : List TableAction)
    (last : SyncSnapshot) (r : Int64) (k : TrackedKey) : Prop where
  run : past ++ [.snapshot last] = before ++ .snapshot first :: since
  awaited : (of before).Awaits r k
  failed : inError first k
  stays : ∀ p, before <+: p → p <+: past → (of p).table.contains r
  unchanged : ∀ s, .snapshot s ∈ since → ∀ job, s.get? k.key = some job → job.phase = .error

section
variable {before since past : List TableAction} {first last : SyncSnapshot}

/-- The snapshot that shows the failure is the last one, or it is before the last one. -/
theorem Failing.cases (hf : Failing before first since past last r k) :
    (past = before ∧ last = first) ∨
      ∃ meanwhile, past = before ++ .snapshot first :: meanwhile ∧
        since = meanwhile ++ [.snapshot last] := by
  have hrun := hf.run
  rcases List.eq_nil_or_concat' since with rfl | ⟨meanwhile, a, rfl⟩
  · obtain ⟨hpast, hlast⟩ := List.append_inj' hrun rfl
    cases hlast
    exact .inl ⟨hpast, rfl⟩
  · rw [← List.cons_append, ← List.append_assoc] at hrun
    obtain ⟨hpast, hlast⟩ := List.append_inj' hrun rfl
    cases hlast
    exact .inr ⟨meanwhile, hpast, rfl⟩

/-- The snapshot that shows the failure is the last one, or it shows another job at work. -/
theorem Failing.last_or_active (hf : Failing before first since past last r k) :
    (past = before ∧ last = first) ∨ ∃ other, (of before).Awaits r other ∧ other.key ≠ k.key ∧
      ∃ job, first.get? other.key = some job ∧ job.phase.isActive := by
  refine hf.cases.imp_right ?_
  rintro ⟨meanwhile, rfl, rfl⟩
  obtain ⟨op, hop, -⟩ := hf.awaited
  have hstays := hf.stays (before ++ [.snapshot first]) (List.prefix_append ..)
    (List.append_cons before _ meanwhile ▸ List.prefix_append ..)
  rw [of_concat] at hstays
  obtain ⟨-, line, hline⟩ := kept_of_stays hop hstays
  obtain ⟨other, hother, job, hjob, hactive⟩ := SyncOperation.exists_active hline
  refine ⟨other, ⟨op, hop, hother⟩, ?_, job, hjob, hactive⟩
  -- a job that failed is not at work
  intro heq
  have hfailed := hf.failed
  rw [inError, ← heq, hjob, Option.any_some, decide_eq_true_iff] at hfailed
  rw [hfailed] at hactive
  cases hactive

/-- The last snapshot shows the failure if it lists the job at all. -/
theorem Failing.inError_last (hf : Failing before first since past last r k) :
    inError last k ↔ (last.get? k.key).isSome := by
  constructor
  · exact Option.isSome_of_any
  · intro hlisted
    rcases hf.cases with ⟨-, rfl⟩ | ⟨meanwhile, -, rfl⟩
    · exact hf.failed
    · obtain ⟨job, hjob⟩ := Option.isSome_iff_exists.mp hlisted
      have hphase := hf.unchanged last (List.mem_append_right _ List.mem_cons_self) job hjob
      rw [inError, hjob, Option.any_some, decide_eq_true_iff]
      exact hphase

/-- The rule waits for the sync to the end. -/
theorem Failing.awaits (hf : Failing before first since past last r k) :
    (of past).Awaits r k := by
  refine awaits_of_stays ?_ hf.awaited hf.stays
  rcases hf.cases with ⟨rfl, -⟩ | ⟨meanwhile, rfl, -⟩
  · exact List.prefix_rfl
  · exact List.prefix_append ..

/-- **A failed sync is among the errors of its rule if and only if the snapshot that retires the
rule still lists the job.**  The errors are those in this snapshot, in the order of the syncs.  A
failure that was in an earlier snapshot, which showed another sync of the rule at work, makes no
difference when the job is not listed any more: as after a sync that went well, the candidates are
stale. -/
theorem failure_listed_iff {x : RetiredOperation}
    (hx : x ∈ ((of past).table.applySnapshot last).1.retired)
    (hf : Failing before first since past last x.ruleId k) :
    ∃ op, (of past).table.operations.find? x.ruleId = some op ∧ k ∈ op.keys ∧
      x.keyCount = op.keys.length ∧
      x.errors = (op.failing last).map (fun k => ⟨k.libraryName, reason last k⟩) ∧
      (k ∈ op.failing last ↔ (last.get? k.key).isSome) ∧
      (x.shouldRefetch ↔ ∃ other ∈ op.keys, ¬ inError last other) ∧
      ((past = before ∧ last = first) ∨
        ∃ other, (of before).Awaits x.ruleId other ∧ other.key ≠ k.key ∧
          ∃ job, first.get? other.key = some job ∧ job.phase.isActive) := by
  obtain ⟨op, hop, hretired⟩ := SyncTable.of_mem_retired hx
  obtain ⟨op', hop', hmem⟩ := hf.awaits
  cases hop.symm.trans hop'
  have herrors : x.errors = op.errors last := congrArg RetiredOperation.errors hretired
  have hcount : x.keyCount = op.keys.length := congrArg RetiredOperation.keyCount hretired
  refine ⟨op, hop, hmem, hcount, herrors.trans (op.errors_eq last), ?_, ?_, hf.last_or_active⟩
  · rw [SyncOperation.failing, List.mem_filter, hf.inError_last]
    exact and_iff_right hmem
  · rw [RetiredOperation.shouldRefetch, decide_eq_true_iff, herrors, hcount,
      SyncOperation.length_errors_lt]
    simp

/-- A sync that failed in the snapshot before the last one. -/
theorem failing_of_next (hk : (of before).Awaits r k) (hfailed : inError first k)
    (hstays : (of (before ++ [.snapshot first])).table.contains r)
    (hlast : ∀ job, last.get? k.key = some job → job.phase = .error) :
    Failing before first [.snapshot last] (before ++ [.snapshot first]) last r k where
  run := List.append_assoc ..
  awaited := hk
  failed := hfailed
  stays p hbefore hpast := by
    rcases List.prefix_concat_iff.mp hpast with rfl | hpast
    · exact hstays
    · obtain ⟨op, hop, -⟩ := hk
      rw [← hbefore.eq_of_length_le hpast.length_le, SyncTable.contains, SortedMap.contains, hop]
      rfl
  unchanged s hs := by
    cases List.mem_singleton.mp hs
    exact hlast

end

/-- One sync of a rule fails while the other one is at work, and is still listed when the other one
is done. -/
theorem failure_listed_once_done :
    let movies : TrackedKey := ⟨⟨1, "movies"⟩, "Movies"⟩
    let shows : TrackedKey := ⟨⟨2, "shows"⟩, "Shows"⟩
    let failed : SyncJobState := ⟨.error, none, none, some "timeout"⟩
    let before : List TableAction := [.insert (.ofKeys 5 [movies, shows])]
    let first : SyncSnapshot :=
      ⟨.ofList [("1:movies", failed), ("2:shows", ⟨.items, none, none, none⟩)]⟩
    let last : SyncSnapshot :=
      ⟨.ofList [("1:movies", failed), ("2:shows", ⟨.done, none, none, none⟩)]⟩
    let past := before ++ [.snapshot first]
    Failing before first [.snapshot last] past last 5 movies ∧
      ⟨5, [⟨"Movies", "timeout"⟩], 2⟩ ∈ ((of past).table.applySnapshot last).1.retired ∧
      ∃ op, (of past).table.operations.find? 5 = some op ∧ movies ∈ op.failing last := by
  intro movies shows failed before first last past
  have hf : Failing before first [.snapshot last] past last 5 movies := by
    refine failing_of_next ⟨.ofKeys 5 [movies, shows], rfl, ?_⟩ ?_ ?_ ?_
    · decide +kernel
    · decide +kernel
    · decide +kernel
    · have hget : last.get? movies.key = some failed := by decide +kernel
      intro job hjob
      cases hget.symm.trans hjob
      rfl
  have hx : ⟨5, [⟨"Movies", "timeout"⟩], 2⟩ ∈ ((of past).table.applySnapshot last).1.retired := by
    decide +kernel
  obtain ⟨op, hop, -, -, -, hlisted, -⟩ := failure_listed_iff hx hf
  exact ⟨hf, hx, op, hop, hlisted.mpr (by decide +kernel)⟩

/-- One sync of a rule fails while the other one is at work.  When neither is listed any more, the
rule retires without an error. -/
theorem failure_forgotten :
    let movies : TrackedKey := ⟨⟨1, "movies"⟩, "Movies"⟩
    let shows : TrackedKey := ⟨⟨2, "shows"⟩, "Shows"⟩
    let before : List TableAction := [.insert (.ofKeys 5 [movies, shows])]
    let first : SyncSnapshot := ⟨.ofList [
      ("1:movies", ⟨.error, none, none, some "timeout"⟩), ("2:shows", ⟨.items, none, none, none⟩)]⟩
    let past := before ++ [.snapshot first]
    Failing before first [.snapshot ⟨∅⟩] past ⟨∅⟩ 5 movies ∧
      ((of past).table.applySnapshot ⟨∅⟩).1.retired = [⟨5, [], 2⟩] := by
  intro movies shows before first past
  refine ⟨failing_of_next ⟨.ofKeys 5 [movies, shows], rfl, ?_⟩ ?_ ?_ ?_, ?_⟩
  · decide +kernel
  · decide +kernel
  · decide +kernel
  · intro job hjob
    cases hjob
  · decide +kernel

end TableRun

end MediaMonitor
