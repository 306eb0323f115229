import MediaMonitor.Proofs.Distinct
import MediaMonitor.Proofs.Sync.Failures

/-!
# The keys of a rule

A rule waits for the keys that were inserted for it since a snapshot last retired it: each once, in
the order in which they came first, under the name they came with first.  `TableRun.SinceRetired`
divides a run at the last retirement of a rule, and `TableRun.keys_since_retirement` says what the
rule waits for in terms of what follows it; other rules do not come into it.
-/

namespace MediaMonitor

namespace SyncOperation

/-- The operation was built from keys, and has one. -/
structure Built (op : SyncOperation) : Prop where
  nonempty : op.keys ≠ []
  built : ∃ keys, op = .ofKeys op.ruleId keys

/-- Adding keys one by one keeps, of all of them, the first of each. -/
theorem foldl_addKey_distinctBy (handed more : List TrackedKey) :
    more.foldl addKey (distinctBy (·.key) [] handed) = distinctBy (·.key) [] (handed ++ more) := by
  induction more generalizing handed with
  | nil => rw [List.foldl_nil, List.append_nil]
  | cons k rest ih =>
      have hmem : k.key ∈ (distinctBy (·.key) [] handed).map (·.key) ↔
          k.key ∈ handed.map (·.key) := by
        rw [map_distinctBy_nil, List.mem_eraseDups]
      have hadd : addKey (distinctBy (·.key) [] handed) k =
          distinctBy (·.key) [] (handed ++ [k]) := by
        rw [addKey, distinctBy_concat]
        simp only [List.not_mem_nil, false_or, ← hmem, List.mem_map, List.any_eq_true,
          decide_eq_true_iff]
      rw [List.foldl_cons, hadd, ih, List.append_assoc, List.singleton_append]

/-- An operation that was built has no key twice. -/
theorem Built.nodup {op : SyncOperation} (h : op.Built) : (op.keys.map (·.key)).Nodup := by
  obtain ⟨keys, heq⟩ := h.built
  rw [heq, ofKeys, merge]
  exact foldl_addKey_distinctBy [] keys ▸ nodup_map_distinctBy ..

/-- The operation of a rule for which keys were handed in. -/
def gather (r : Int64) (handed : List TrackedKey) : Option SyncOperation :=
  if handed = [] then none else some ⟨r, distinctBy (·.key) [] handed⟩

/-- More keys are handed in. -/
theorem gather_append {op : SyncOperation} (hbuilt : op.Built) (handed : List TrackedKey) :
    some (match gather op.ruleId handed with
      | some present => present.merge op.keys
      | none => op) = gather op.ruleId (handed ++ op.keys) := by
  have hsome : handed ++ op.keys ≠ [] := fun h => hbuilt.nonempty (List.append_eq_nil_iff.mp h).2
  rw [gather, gather, if_neg hsome]
  by_cases h : handed = []
  -- the first operation is taken as it is: only because it was built has it no key twice
  · rw [if_pos h, h, List.nil_append, distinctBy_of_nodup hbuilt.nodup (fun _ _ => by simp)]
  · rw [if_neg h, ← foldl_addKey_distinctBy]
    rfl

end SyncOperation

namespace TableRun

variable {r : Int64}

/-- The keys that are inserted for a rule, in their order. -/
def inserted (r : Int64) (actions : List TableAction) : List TrackedKey :=
  actions.flatMap (fun
    | .insert op => if op.ruleId = r then op.keys else []
    | .snapshot _ => [])

theorem inserted_insert (r : Int64) (actions : List TableAction) (op : SyncOperation) :
    inserted r (actions ++ [.insert op]) =
      if op.ruleId = r then inserted r actions ++ op.keys else inserted r actions := by
  rw [inserted, List.flatMap_append, List.flatMap_singleton, ← inserted]
  by_cases h : op.ruleId = r <;> simp [h]

theorem inserted_snapshot (r : Int64) (actions : List TableAction) (s : SyncSnapshot) :
    inserted r (actions ++ [.snapshot s]) = inserted r actions := by
  rw [inserted, List.flatMap_append, List.flatMap_singleton, List.append_nil, ← inserted]

/-! ### The last retirement -/

/-- A snapshot that follows some actions retires a rule. -/
def Retires (past : List TableAction) (s : SyncSnapshot) (r : Int64) : Prop :=
  ∃ x ∈ ((of past).table.applySnapshot s).1.retired, x.ruleId = r

/-- The actions `since` are those that follow the last retirement of a rule, or all if it never
retired. -/
structure SinceRetired (r : Int64) (actions before since : List TableAction) : Prop where
  run : actions = before ++ since
  divides : before = [] ∨ ∃ past s, before = past ++ [.snapshot s] ∧ Retires past s r
  stays : ∀ more s, more ++ [.snapshot s] <+: since → ¬ Retires (before ++ more) s r

/-- A snapshot takes a rule out of the table if it retires it, and leaves its operation as it is
otherwise. -/
theorem find?_snapshot (past : List TableAction) (s : SyncSnapshot) (r : Int64) :
    (Retires past s r → (of (past ++ [.snapshot s])).table.operations.find? r = none) ∧
      (¬ Retires past s r → (of (past ++ [.snapshot s])).table.operations.find? r =
        (of past).table.operations.find? r) := by
  have hseen : SyncTable.Seen (of past).table s r ((of past).table.applySnapshot s).1
      (of (past ++ [.snapshot s])).table := by
    rw [of_concat]; exact (of past).table.seen s r
  have hretires : Retires past s r ↔ ((of past).table.applySnapshot s).1.retiredOf r ≠ [] := by
    rw [Retires, TickReport.retiredOf, Ne, List.filter_eq_nil_iff]
    simp
  rw [hretires]
  cases hseen with
  | untracked hop _ hnone hop' => exact ⟨fun _ => hop', fun _ => hop'.trans hop.symm⟩
  | kept op _ hop _ _ hnone hop' => exact ⟨fun h => absurd hnone h, fun _ => hop'.trans hop.symm⟩
  | retired op _ _ _ hone hop' =>
      refine ⟨fun _ => hop', fun h => absurd ?_ h⟩
      rw [hone]
      exact List.cons_ne_nil _ _

/-- Every run has a part that follows the last retirement of a rule. -/
theorem exists_sinceRetired (r : Int64) (actions : List TableAction) :
    ∃ before since, SinceRetired r actions before since := by
  induction actions using List.reverseRecOn with
  | nil => exact ⟨[], [], rfl, .inl rfl, fun more s h => by simp at h⟩
  | append_singleton actions a ih =>
      obtain ⟨before, since, rfl, hbefore, hstays⟩ := ih
      -- either the last action retires the rule, or it belongs to the part
      by_cases hlast : ∃ s, a = .snapshot s ∧ Retires (before ++ since) s r
      · obtain ⟨s, rfl, hretires⟩ := hlast
        refine ⟨before ++ since ++ [.snapshot s], [], (List.append_nil _).symm,
          .inr ⟨_, s, rfl, hretires⟩, fun more s h => by simp at h⟩
      · refine ⟨before, since ++ [a], List.append_assoc .., hbefore, fun more s h => ?_⟩
        rcases List.prefix_concat_iff.mp h with heq | hprefix
        · obtain ⟨rfl, ha⟩ := List.append_inj' heq rfl
          exact fun hretires => hlast ⟨s, (List.cons.inj ha).1.symm, hretires⟩
        · exact hstays more s hprefix

/-! ### What a rule waits for -/

/-- An insertion hands keys in for its rule, and for no other. -/
theorem find?_insert_gather {past since : List TableAction} {op : SyncOperation}
    (hbuilt : op.Built)
    (h : (of past).table.operations.find? r = SyncOperation.gather r (inserted r since)) :
    (of (past ++ [.insert op])).table.operations.find? r =
      SyncOperation.gather r (inserted r (since ++ [.insert op])) := by
  rw [of_concat, step, SyncTable.find?_insert, h, inserted_insert]
  split
  case isTrue hrule =>
    rw [← hrule]
    exact SyncOperation.gather_append hbuilt (inserted op.ruleId since)
  case isFalse => rfl

/-- **A rule waits for what was inserted for it since it last retired.** -/
theorem find?_of_sinceRetired {actions before since : List TableAction}
    (hbuilt : ∀ op, .insert op ∈ actions → op.Built) (hs : SinceRetired r actions before since) :
    (of actions).table.operations.find? r = SyncOperation.gather r (inserted r since) := by
  -- right after the retirement the rule is not tracked, and every later action keeps the equation
  induction since using List.reverseRecOn generalizing actions with
  | nil =>
      obtain ⟨rfl, rfl | ⟨past, s, rfl, hretires⟩, -⟩ := hs
      · rfl
      · rw [List.append_nil]
        exact (find?_snapshot past s r).1 hretires
  | append_singleton since a ih =>
      obtain ⟨rfl, hbefore, hstays⟩ := hs
      rw [← List.append_assoc] at hbuilt ⊢
      have hprev := ih (fun op hop => hbuilt op (List.mem_append_left _ hop))
        ⟨rfl, hbefore, fun more s h => hstays more s (h.trans (List.prefix_append ..))⟩
      cases a with
      | insert op =>
          exact find?_insert_gather (hbuilt op (List.mem_append_right _ List.mem_cons_self)) hprev
      | snapshot s =>
          rw [(find?_snapshot _ s r).2 (hstays since s List.prefix_rfl), hprev, inserted_snapshot]

/-- **The keys of a rule are those inserted since it last retired**, each once, in the order in
which they came first, and under the name they came with first.  The rule is tracked if and only if
there are any. -/
theorem keys_since_retirement {actions : List TableAction}
    (hbuilt : ∀ op, .insert op ∈ actions → op.Built) (r : Int64) :
    (∃ before since, SinceRetired r actions before since) ∧
      ∀ before since, SinceRetired r actions before since →
        ((of actions).table.contains r ↔ inserted r since ≠ []) ∧
        ∀ op, (of actions).table.operations.find? r = some op →
          op.ruleId = r ∧ (op.keys.map (·.key)).Nodup ∧
          op.keys.map (·.key) = ((inserted r since).map (·.key)).eraseDups ∧
          ∀ k ∈ op.keys, (inserted r since).find? (fun i => i.key = k.key) = some k := by
  refine ⟨exists_sinceRetired r actions, fun before since hs => ?_⟩
  rw [SyncTable.contains, SortedMap.contains, find?_of_sinceRetired hbuilt hs, SyncOperation.gather]
  by_cases hnone : inserted r since = []
  · rw [if_pos hnone]
    exact ⟨by simp [hnone], fun op hop => by cases hop⟩
  · rw [if_neg hnone]
    refine ⟨by simp [hnone], fun op hop => ?_⟩
    cases hop
    exact ⟨rfl, nodup_map_distinctBy .., map_distinctBy_nil .., fun k hk =>
      (find?_of_mem_distinctBy hk).2⟩

/-- A rule retires, and is inserted again, twice: it waits for the two keys that came since, the
first under the first of its names. -/
theorem keys_after_retirement :
    let movies (name : String) : TrackedKey := ⟨⟨1, "movies"⟩, name⟩
    let shows (name : String) : TrackedKey := ⟨⟨2, "shows"⟩, name⟩
    let past : List TableAction := [.insert (.ofKeys 5 [movies "Movies"])]
    let since : List TableAction := [.insert (.ofKeys 5 [shows "Shows", shows "Series"]),
      .insert (.ofKeys 6 [movies "Movies"]), .insert (.ofKeys 5 [shows "Series", movies "Films"])]
    let actions := past ++ [.snapshot ⟨∅⟩] ++ since
    (∀ op, .insert op ∈ actions → op.Built) ∧
      SinceRetired 5 actions (past ++ [.snapshot ⟨∅⟩]) since ∧
      ∃ op, (of actions).table.operations.find? 5 = some op ∧ op.ruleId = 5 ∧
        op.keys.map (·.key) = [⟨2, "shows"⟩, ⟨1, "movies"⟩] ∧
        ∀ k ∈ op.keys, (inserted 5 since).find? (fun i => i.key = k.key) = some k := by
  intro movies shows past since actions
  have hbuilt : ∀ op, .insert op ∈ actions → op.Built := by
    intro op hop
    simp only [actions, past, since, List.cons_append, List.nil_append, List.mem_cons,
      List.not_mem_nil, or_false, TableAction.insert.injEq, reduceCtorEq, false_or] at hop
    rcases hop with rfl | rfl | rfl | rfl <;> exact ⟨by decide +kernel, _, rfl⟩
  have hs : SinceRetired 5 actions (past ++ [.snapshot ⟨∅⟩]) since := by
    refine ⟨rfl, .inr ⟨past, ⟨∅⟩, rfl, ⟨5, [], 1⟩, by decide +kernel, rfl⟩, fun more s h => ?_⟩
    have hmem : TableAction.snapshot s ∈ since :=
      h.subset (List.mem_append_right _ List.mem_cons_self)
    simp [since] at hmem
  have hsome : ((of actions).table.operations.find? 5).isSome := by decide +kernel
  obtain ⟨op, hop⟩ := Option.isSome_iff_exists.mp hsome
  obtain ⟨hrule, -, hkeys, hnames⟩ := ((keys_since_retirement hbuilt 5).2 _ _ hs).2 op hop
  refine ⟨hbuilt, hs, op, hop, hrule, hkeys.trans ?_, hnames⟩
  decide +kernel

end TableRun

end MediaMonitor
