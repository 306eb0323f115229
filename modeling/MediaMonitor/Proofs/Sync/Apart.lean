import MediaMonitor.Proofs.Sync.Failures

/-!
# Rules do not influence each other

One snapshot is for all rules of a table, and rules may wait for the same syncs.  Still the part of
a run that is about one rule (`TableRun.part`) goes its own way: each action on the table acts on
the part by itself (`TableRun.part_step`), and the insertions of other rules do nothing to it.  The
part is therefore the same when they are left out (`TableRun.rules_apart`).
-/

namespace MediaMonitor

/-- An action concerns a rule: a snapshot, or the insertion of an operation of the rule. -/
def TableAction.concerns (r : Int64) : TableAction → Bool
  | .insert op => op.ruleId = r
  | .snapshot _ => true

/-- The run of one rule by itself: its operation and its line, and for every snapshot so far what
was reported about the rule. -/
structure RuleRun where
  operation : Option SyncOperation := none
  line : Option String := none
  lines : List (List String) := []
  retirements : List (List RetiredOperation) := []

namespace RuleRun

/-- A rule joins, or more keys join those it waits for. -/
def join (x : RuleRun) (op : SyncOperation) : RuleRun :=
  { x with operation := some (match x.operation with
      | some present => present.merge op.keys
      | none => op) }

/-- Notes what a report says about the rule. -/
def note (x : RuleRun) (lines : List String) (retirements : List RetiredOperation) : RuleRun :=
  { x with lines := x.lines ++ [lines], retirements := x.retirements ++ [retirements] }

/-- A snapshot shows the rule a line, or retires it. -/
def look (r : Int64) (x : RuleRun) (s : SyncSnapshot) : RuleRun :=
  match x.operation with
  | none => x.note [] []
  | some op =>
      match op.status? s with
      | some line =>
          { x.note (if x.line = some line then [] else [line]) [] with line := some line }
      | none =>
          { x.note [] [⟨r, op.errors s, op.keys.length⟩] with operation := none, line := none }

/-- Goes on with an action. -/
def step (r : Int64) (x : RuleRun) : TableAction → RuleRun
  | .insert op => if op.ruleId = r then x.join op else x
  | .snapshot s => x.look r s

/-- What does not concern the rule does nothing to its run. -/
theorem step_of_not_concerns {r : Int64} {a : TableAction} (h : ¬ a.concerns r) (x : RuleRun) :
    x.step r a = x := by
  cases a with
  | insert op => exact if_neg (fun heq => h (decide_eq_true heq))
  | snapshot s => exact absurd rfl h

/-- The rule's run is the same without what does not concern it. -/
theorem foldl_step_filter (r : Int64) (actions : List TableAction) (x : RuleRun) :
    (actions.filter (TableAction.concerns r)).foldl (step r) x = actions.foldl (step r) x := by
  induction actions generalizing x with
  | nil => rfl
  | cons a rest ih =>
      rw [List.filter_cons, List.foldl_cons]
      split
      case isTrue => exact ih (x.step r a)
      case isFalse h => rw [step_of_not_concerns h, ih]

end RuleRun

namespace TableRun

/-- The part of a run that is about one rule. -/
def part (h : TableRun) (r : Int64) : RuleRun where
  operation := h.table.operations.find? r
  line := h.table.statuses.find? r
  lines := h.reports.map (·.linesOf r)
  retirements := h.reports.map (·.retiredOf r)

theorem part_insert (h : TableRun) (op : SyncOperation) (r : Int64) :
    (h.step (.insert op)).part r = if op.ruleId = r then (h.part r).join op else h.part r := by
  have hfind : (h.step (.insert op)).table.operations.find? r = _ := h.table.find?_insert op r
  rw [part, hfind]
  split <;> rfl

theorem part_snapshot (h : TableRun) (s : SyncSnapshot) (r : Int64) :
    (h.step (.snapshot s)).part r = (h.part r).look r s := by
  have hseen : SyncTable.Seen h.table s r (h.table.applySnapshot s).1
      (h.step (.snapshot s)).table := h.table.seen s r
  have hreports : (h.step (.snapshot s)).reports = h.reports ++ [(h.table.applySnapshot s).1] := rfl
  rw [part, hreports, List.map_append, List.map_append, List.map_singleton, List.map_singleton]
  cases hseen with
  | untracked hop hlines hretired hop' hline' =>
      rw [hlines, hretired, hop', hline']
      simp only [RuleRun.look, part, hop, RuleRun.note]
  | kept op line hop hline hlines hretired hop' hline' =>
      rw [hlines, hretired, hop', hline']
      simp only [RuleRun.look, part, hop, hline, RuleRun.note]
  | retired op hop hline hlines hretired hop' hline' =>
      rw [hlines, hretired, hop', hline']
      simp only [RuleRun.look, part, hop, hline, RuleRun.note]

/-- **An action acts on the part of a rule by itself.** -/
theorem part_step (h : TableRun) (a : TableAction) (r : Int64) :
    (h.step a).part r = (h.part r).step r a := by
  cases a with
  | insert op => exact h.part_insert op r
  | snapshot s => exact h.part_snapshot s r

/-- The part of a run that is about a rule is the run of the rule by itself. -/
theorem part_of (actions : List TableAction) (r : Int64) :
    (of actions).part r = actions.foldl (RuleRun.step r) {} := by
  induction actions using List.reverseRecOn with
  | nil => rfl
  | append_singleton actions a ih => rw [of_concat, part_step, ih, List.foldl_concat]

/-- The part of a run that is about a rule is the same without the insertions of other rules. -/
theorem part_filter (actions : List TableAction) (r : Int64) :
    (of (actions.filter (TableAction.concerns r))).part r = (of actions).part r := by
  rw [part_of, part_of, RuleRun.foldl_step_filter]

/-- **Rules do not influence each other.**  At every step of a run, all that can be seen of a rule
is what would be seen of it had no other rule been inserted: its line, whether it is tracked and for
which keys, and what each snapshot up to this step reported about it. -/
theorem rules_apart (actions : List TableAction) (r : Int64) (n : Nat) :
    let h := of (actions.take n)
    let own := (actions.take n).filter (TableAction.concerns r)
    own <+: actions.filter (TableAction.concerns r) ∧
      (of own).table.statuses.find? r = h.table.statuses.find? r ∧
      (of own).table.contains r = h.table.contains r ∧
      (of own).table.operations.find? r = h.table.operations.find? r ∧
      (of own).reports.map (·.linesOf r) = h.reports.map (·.linesOf r) ∧
      (of own).reports.map (·.retiredOf r) = h.reports.map (·.retiredOf r) := by
  intro h own
  have hpart : (of own).part r = h.part r := part_filter (actions.take n) r
  have hoperation : (of own).table.operations.find? r = h.table.operations.find? r :=
    congrArg RuleRun.operation hpart
  refine ⟨(List.take_prefix n actions).filter _, congrArg RuleRun.line hpart, ?_, hoperation,
    congrArg RuleRun.lines hpart, congrArg RuleRun.retirements hpart⟩
  rw [SyncTable.contains, SyncTable.contains, SortedMap.contains, SortedMap.contains, hoperation]

end TableRun

end MediaMonitor
