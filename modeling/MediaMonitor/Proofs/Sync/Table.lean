import Mathlib.Data.List.Chain
import MediaMonitor.Sync.Table

/-!
# Runs of a table of syncs

A snapshot does one of three things to a rule (`SyncTable.Seen`): it does not touch a rule that is
not tracked, it keeps one that has a line, and it retires one that has none.  The reports on a run
of a table therefore say all there is to know of the status lines: who replays them has the lines
(`TableRun.lines_of_reports`).
-/

namespace MediaMonitor

/-! ### The keys of an operation -/

namespace SyncOperation

/-- A key that is added is there afterwards, and so are those that were there. -/
theorem mem_addKey (keys : List TrackedKey) (k : TrackedKey) :
    (∀ p ∈ keys, p ∈ addKey keys k) ∧ ∃ p ∈ addKey keys k, p.key = k.key := by
  rw [addKey]
  split
  case isTrue hany =>
    obtain ⟨p, hp, heq⟩ := List.any_eq_true.mp hany
    exact ⟨fun _ hp => hp, p, hp, of_decide_eq_true heq⟩
  case isFalse =>
    refine ⟨fun p hp => List.mem_append_left _ hp, k, ?_, rfl⟩
    exact List.mem_append_right _ (List.mem_singleton.mpr rfl)

theorem mem_foldl_addKey (more keys : List TrackedKey) :
    (∀ p ∈ keys, p ∈ more.foldl addKey keys) ∧
      ∀ k ∈ more, ∃ p ∈ more.foldl addKey keys, p.key = k.key := by
  induction more generalizing keys with
  | nil => exact ⟨fun _ hp => hp, fun _ hk => nomatch hk⟩
  | cons first rest ih =>
      obtain ⟨hkeep, p, hp, heq⟩ := mem_addKey keys first
      obtain ⟨ihkeep, ihmore⟩ := ih (addKey keys first)
      refine ⟨fun q hq => ihkeep q (hkeep q hq), fun k hk => ?_⟩
      rcases List.mem_cons.mp hk with rfl | hk
      · exact ⟨p, ihkeep p hp, heq⟩
      · exact ihmore k hk

end SyncOperation

/-! ### What a report says about one rule -/

namespace TickReport

/-- The line of a rule that changed. -/
def linesOf (t : TickReport) (r : Int64) : List String :=
  (t.updates.filter (·.1 = r)).map (·.2)

/-- The retirement of a rule. -/
def retiredOf (t : TickReport) (r : Int64) : List RetiredOperation :=
  t.retired.filter (·.ruleId = r)

end TickReport

namespace SyncTable

section
variable {t : SyncTable} {s : SyncSnapshot} {r : Int64}

/-! ### The visits of a snapshot -/

/-- A visit to another rule does not touch this one. -/
theorem visit_other (found : TickReport × SortedMap Int64 String) {e : Int64 × SyncOperation}
    (h : e.1 ≠ r) :
    (visit s found e).1.linesOf r = found.1.linesOf r ∧
      (visit s found e).1.retiredOf r = found.1.retiredOf r ∧
      (visit s found e).2.find? r = found.2.find? r := by
  obtain ⟨report, statuses⟩ := found
  rw [visit]
  cases hline : e.2.status? s with
  | none => simp [TickReport.linesOf, TickReport.retiredOf, h]
  | some line =>
      by_cases hsame : statuses.find? e.1 = some line
      · simp [hsame]
      · simp [hsame, TickReport.linesOf, TickReport.retiredOf, SortedMap.find?_insert, h]

theorem foldl_visit_other {l : List (Int64 × SyncOperation)} (h : ∀ e ∈ l, e.1 ≠ r)
    (found : TickReport × SortedMap Int64 String) :
    (l.foldl (visit s) found).1.linesOf r = found.1.linesOf r ∧
      (l.foldl (visit s) found).1.retiredOf r = found.1.retiredOf r ∧
      (l.foldl (visit s) found).2.find? r = found.2.find? r := by
  induction l generalizing found with
  | nil => exact ⟨rfl, rfl, rfl⟩
  | cons e rest ih =>
      obtain ⟨hlines, hretired, hfind⟩ := visit_other (s := s) found (h e List.mem_cons_self)
      obtain ⟨ihlines, ihretired, ihfind⟩ :=
        ih (fun d hd => h d (List.mem_cons_of_mem _ hd)) (visit s found e)
      exact ⟨ihlines.trans hlines, ihretired.trans hretired, ihfind.trans hfind⟩

/-- A visit to the rule itself finds a line. -/
theorem visit_line {op : SyncOperation} {line : String} (h : op.status? s = some line)
    (found : TickReport × SortedMap Int64 String) :
    (visit s found (r, op)).1.linesOf r =
        found.1.linesOf r ++ (if found.2.find? r = some line then [] else [line]) ∧
      (visit s found (r, op)).1.retiredOf r = found.1.retiredOf r ∧
      (visit s found (r, op)).2.find? r = some line := by
  obtain ⟨report, statuses⟩ := found
  by_cases hsame : statuses.find? r = some line
  · simp [visit, h, hsame]
  · simp [visit, h, hsame, TickReport.linesOf, TickReport.retiredOf, SortedMap.find?_insert]

/-- A visit to the rule itself finds no line. -/
theorem visit_none {op : SyncOperation} (h : op.status? s = none)
    (found : TickReport × SortedMap Int64 String) :
    (visit s found (r, op)).1.linesOf r = found.1.linesOf r ∧
      (visit s found (r, op)).1.retiredOf r =
        found.1.retiredOf r ++ [⟨r, op.errors s, op.keys.length⟩] ∧
      (visit s found (r, op)).2.find? r = found.2.find? r := by
  simp [visit, h, TickReport.linesOf, TickReport.retiredOf]

/-- Erasing what retired takes away nothing else. -/
theorem find?_foldl_erase {α : Type} (l : List RetiredOperation) (m : SortedMap Int64 α)
    (r : Int64) :
    (l.foldl (fun m x => m.erase x.ruleId) m).find? r =
      if l.filter (·.ruleId = r) = [] then m.find? r else none := by
  induction l generalizing m with
  | nil => rfl
  | cons x rest ih =>
      rw [List.foldl_cons, ih, SortedMap.find?_erase]
      by_cases h : x.ruleId = r <;> simp [h]

/-! ### What a snapshot does to a rule -/

/-- What a snapshot does to a rule: what its report says about it, and the table afterwards. -/
inductive Seen (t : SyncTable) (s : SyncSnapshot) (r : Int64) (report : TickReport)
    (t' : SyncTable) : Prop where
  | untracked (hop : t.operations.find? r = none) (hlines : report.linesOf r = [])
      (hretired : report.retiredOf r = []) (hop' : t'.operations.find? r = none)
      (hline' : t'.statuses.find? r = t.statuses.find? r)
  | kept (op : SyncOperation) (line : String) (hop : t.operations.find? r = some op)
      (hline : op.status? s = some line)
      (hlines : report.linesOf r = if t.statuses.find? r = some line then [] else [line])
      (hretired : report.retiredOf r = []) (hop' : t'.operations.find? r = some op)
      (hline' : t'.statuses.find? r = some line)
  | retired (op : SyncOperation) (hop : t.operations.find? r = some op)
      (hline : op.status? s = none) (hlines : report.linesOf r = [])
      (hretired : report.retiredOf r = [⟨r, op.errors s, op.keys.length⟩])
      (hop' : t'.operations.find? r = none) (hline' : t'.statuses.find? r = none)

/-- **A snapshot does one of three things to a rule.** -/
theorem seen (t : SyncTable) (s : SyncSnapshot) (r : Int64) :
    Seen t s r (t.applySnapshot s).1 (t.applySnapshot s).2 := by
  cases hop : t.operations.find? r with
  | none =>
      obtain ⟨hlines, hretired, hfind⟩ :=
        foldl_visit_other (s := s) (SortedMap.find?_eq_none.mp hop) ({}, t.statuses)
      refine .untracked hop hlines hretired ?_ ?_
      · exact (find?_foldl_erase _ _ r).trans (by rw [hop]; split <;> rfl)
      · exact (find?_foldl_erase _ _ r).trans ((if_pos hretired).trans hfind)
  | some op =>
      -- the rule has one entry, and the visits before and after it are to others
      obtain ⟨pre, post, hentries, hne⟩ := SortedMap.split_of_find? hop
      let found := pre.foldl (visit s) ({}, t.statuses)
      obtain ⟨hlines, hretired, hfind⟩ := foldl_visit_other (s := s)
        (fun e he => hne e (List.mem_append_left _ he)) ({}, t.statuses)
      obtain ⟨hlines', hretired', hfind'⟩ := foldl_visit_other (s := s)
        (fun e he => hne e (List.mem_append_right _ he)) (visit s found (r, op))
      have hreport : t.operations.entries.foldl (visit s) ({}, t.statuses) =
          post.foldl (visit s) (visit s found (r, op)) := by
        rw [hentries, List.foldl_append, List.foldl_cons]
      rw [← hreport] at hlines' hretired' hfind'
      cases hline : op.status? s with
      | some line =>
          obtain ⟨hown, hownRetired, hownFind⟩ := visit_line hline found
          rw [hlines, hfind] at hown
          have hnone := hretired'.trans (hownRetired.trans hretired)
          refine .kept op line hop hline (hlines'.trans hown) hnone ?_ ?_
          · exact (find?_foldl_erase _ _ r).trans ((if_pos hnone).trans hop)
          · exact (find?_foldl_erase _ _ r).trans
              ((if_pos hnone).trans (hfind'.trans hownFind))
      | none =>
          obtain ⟨hown, hownRetired, hownFind⟩ := visit_none hline found
          rw [hretired] at hownRetired
          have hone := hretired'.trans hownRetired
          have hsome : (t.applySnapshot s).1.retiredOf r ≠ [] := by
            rw [applySnapshot, hone]; exact List.cons_ne_nil _ _
          refine .retired op hop hline (hlines'.trans (hown.trans hlines)) hone ?_ ?_
          · exact (find?_foldl_erase _ _ r).trans (if_neg hsome)
          · exact (find?_foldl_erase _ _ r).trans (if_neg hsome)

/-- A rule that joins is tracked; no other rule is touched. -/
theorem find?_insert (t : SyncTable) (op : SyncOperation) (r : Int64) :
    (t.insert op).operations.find? r =
      if op.ruleId = r then
        some (match t.operations.find? r with
          | some present => present.merge op.keys
          | none => op)
      else t.operations.find? r := by
  rw [insert, SortedMap.find?_insert]
  split
  · subst_vars; rfl
  · rfl

/-! ### Reports replayed -/

/-- The status lines of one who is told of a report: an update sets a line, and a retirement takes
it away. -/
def replay (statuses : SortedMap Int64 String) (report : TickReport) : SortedMap Int64 String :=
  report.retired.foldl (fun m x => m.erase x.ruleId)
    (report.updates.foldl (fun m u => m.insert u.1 u.2) statuses)

theorem foldl_visit_statuses (l : List (Int64 × SyncOperation))
    (found : TickReport × SortedMap Int64 String) {statuses : SortedMap Int64 String}
    (h : found.2 = found.1.updates.foldl (fun m u => m.insert u.1 u.2) statuses) :
    (l.foldl (visit s) found).2 =
      (l.foldl (visit s) found).1.updates.foldl (fun m u => m.insert u.1 u.2) statuses := by
  induction l generalizing found with
  | nil => exact h
  | cons e rest ih =>
      refine ih _ ?_
      obtain ⟨report, current⟩ := found
      rw [visit]
      cases hline : e.2.status? s with
      | none => exact h
      | some line =>
          by_cases hsame : current.find? e.1 = some line
          · simpa [hsame] using h
          · simp only [hsame, if_false, List.foldl_append, List.foldl_cons, List.foldl_nil]
            exact congrArg (fun m => m.insert e.1 line) h

/-- The lines after a snapshot are those before it with its report replayed. -/
theorem statuses_applySnapshot (t : SyncTable) (s : SyncSnapshot) :
    (t.applySnapshot s).2.statuses = replay t.statuses (t.applySnapshot s).1 := by
  have hvisits := foldl_visit_statuses (s := s) t.operations.entries ({}, t.statuses) rfl
  rw [replay]
  exact congrArg (List.foldl (fun m (x : RetiredOperation) => m.erase x.ruleId) · _) hvisits

/-- No rule is both updated and retired. -/
theorem ne_of_mem_report (t : SyncTable) (s : SyncSnapshot) :
    ∀ u ∈ (t.applySnapshot s).1.updates, ∀ x ∈ (t.applySnapshot s).1.retired,
      u.1 ≠ x.ruleId := by
  intro u hu x hx heq
  have hlines : u.2 ∈ (t.applySnapshot s).1.linesOf x.ruleId :=
    List.mem_map.mpr ⟨u, List.mem_filter.mpr ⟨hu, decide_eq_true heq⟩, rfl⟩
  have hretired : x ∈ (t.applySnapshot s).1.retiredOf x.ruleId :=
    List.mem_filter.mpr ⟨hx, decide_eq_true rfl⟩
  cases t.seen s x.ruleId with
  | untracked _ hnone => rw [hnone] at hlines; cases hlines
  | kept _ _ _ _ _ hnone => rw [hnone] at hretired; cases hretired
  | retired _ _ _ hnone => rw [hnone] at hlines; cases hlines

end

end SyncTable

/-! ### Runs -/

/-- What is done to a table. -/
inductive TableAction where
  | insert (op : SyncOperation)
  | snapshot (s : SyncSnapshot)

/-- A table that was empty at first, and the reports on the way to it. -/
structure TableRun where
  table : SyncTable := {}
  reports : List TickReport := []

namespace TableRun

/-- Goes on with an action. -/
def step (h : TableRun) : TableAction → TableRun
  | .insert op => { h with table := h.table.insert op }
  | .snapshot s =>
      ⟨(h.table.applySnapshot s).2, h.reports ++ [(h.table.applySnapshot s).1]⟩

/-- The run that actions make of an empty table. -/
def of (actions : List TableAction) : TableRun := actions.foldl step {}

/-- What holds of the empty table and is preserved by every action holds of every run. -/
theorem induction {P : TableRun → Prop} (hp : P {}) (hstep : ∀ h a, P h → P (h.step a))
    (actions : List TableAction) : P (of actions) := by
  suffices ∀ h, P h → P (actions.foldl step h) from this {} hp
  induction actions with
  | nil => exact fun _ hp => hp
  | cons a rest ih => exact fun h hp => ih _ (hstep h a hp)

/-- What reports say about a rule, one after another: a new line, or nothing where it retired. -/
def changes (reports : List TickReport) (r : Int64) : List (Option String) :=
  reports.flatMap (fun t => (t.linesOf r).map some ++ (t.retiredOf r).map (fun _ => none))

/-- Two changes in a row do not report the same line. -/
def Differ (x y : Option String) : Prop := ∀ line, x = some line → y ≠ some line

/-- What the reports say of a rule is what the table has: an untracked rule has no line, a tracked
one has the line that was reported last, and no line was reported twice in a row. -/
structure RuleReported (h : TableRun) (r : Int64) : Prop where
  tracked : h.table.operations.find? r = none → h.table.statuses.find? r = none
  last : (changes h.reports r).getLast?.join = h.table.statuses.find? r
  differ : (changes h.reports r).IsChain Differ

/-- The reports say all there is to know of the lines. -/
structure Reported (h : TableRun) : Prop where
  rule : ∀ r, h.RuleReported r
  replayed : h.reports.foldl SyncTable.replay ∅ = h.table.statuses
  apart : ∀ t ∈ h.reports, ∀ u ∈ t.updates, ∀ x ∈ t.retired, u.1 ≠ x.ruleId

theorem reported_init : Reported {} where
  rule _ := ⟨fun _ => rfl, rfl, .nil⟩
  replayed := rfl
  apart t h := by cases h

theorem changes_snapshot (h : TableRun) (s : SyncSnapshot) (r : Int64) :
    let report := (h.table.applySnapshot s).1
    changes (h.step (.snapshot s)).reports r =
      changes h.reports r ++
        ((report.linesOf r).map some ++ (report.retiredOf r).map (fun _ => none)) := by
  intro report
  rw [step, changes, changes, List.flatMap_append, List.flatMap_singleton]

/-- A rule that joins has no line before the next snapshot. -/
theorem RuleReported.insert {h : TableRun} {r : Int64} (hr : h.RuleReported r)
    (op : SyncOperation) : (h.step (.insert op)).RuleReported r where
  tracked hop := by
    refine hr.tracked ?_
    have hinsert : (h.table.insert op).operations.find? r = none := hop
    rw [SyncTable.find?_insert] at hinsert
    split at hinsert
    · cases hinsert
    · exact hinsert
  last := hr.last
  differ := hr.differ

/-- A snapshot reports what it does to a rule. -/
theorem RuleReported.snapshot {h : TableRun} {r : Int64} (hr : h.RuleReported r)
    (s : SyncSnapshot) : (h.step (.snapshot s)).RuleReported r := by
  have hseen : SyncTable.Seen h.table s r (h.table.applySnapshot s).1
      (h.step (.snapshot s)).table := h.table.seen s r
  have hchanges := changes_snapshot h s r
  dsimp only at hchanges
  have hlast (y : Option String) (hy : ∀ line, h.table.statuses.find? r = some line →
      y ≠ some line) : (changes h.reports r ++ [y]).IsChain Differ := by
    refine hr.differ.append (.singleton y) ?_
    intro x hx z hz line hline
    cases hz
    refine hy line ?_
    rw [← hr.last, hx, hline]
    rfl
  cases hseen with
  | untracked hop hlines hretired hop' hline' =>
      rw [hlines, hretired, List.map_nil, List.map_nil, List.append_nil, List.append_nil]
        at hchanges
      refine ⟨fun _ => hline'.trans (hr.tracked hop), ?_, ?_⟩
      · rw [hchanges]; exact hr.last.trans hline'.symm
      · rw [hchanges]; exact hr.differ
  | kept op line hop hline hlines hretired hop' hline' =>
      refine ⟨fun h' => absurd (hop'.symm.trans h') (Option.some_ne_none _), ?_, ?_⟩ <;>
        rw [hchanges, hlines, hretired]
      · split
        case isTrue hsame => simpa using hr.last.trans (hsame.trans hline'.symm)
        case isFalse => simpa using hline'.symm
      · split
        case isTrue => simpa using hr.differ
        case isFalse hnew =>
          refine hlast (some line) ?_
          intro line' hbefore heq
          exact hnew (hbefore.trans heq.symm)
  | retired op hop hline hlines hretired hop' hline' =>
      refine ⟨fun _ => hline', ?_, ?_⟩ <;> rw [hchanges, hlines, hretired]
      · simpa using hline'.symm
      · exact hlast none (fun _ _ => nofun)

/-- What every action preserves. -/
theorem Reported.step {h : TableRun} (hr : h.Reported) (a : TableAction) :
    (h.step a).Reported := by
  cases a with
  | insert op => exact ⟨fun r => (hr.rule r).insert op, hr.replayed, hr.apart⟩
  | snapshot s =>
      refine ⟨fun r => (hr.rule r).snapshot s, ?_, ?_⟩
      · rw [TableRun.step, List.foldl_append, hr.replayed]
        exact (h.table.statuses_applySnapshot s).symm
      · intro t ht
        rcases List.mem_append.mp ht with ht | ht
        · exact hr.apart t ht
        · rw [List.mem_singleton.mp ht]
          exact h.table.ne_of_mem_report s

/-- The reports on every run say all there is to know of the lines. -/
theorem reported (actions : List TableAction) : (of actions).Reported :=
  induction reported_init (fun _ a hr => hr.step a) actions

/-- **The lines of a table are those of its tracked rules, and who replays its reports has them.**
Between two reports of the same line for a rule the rule retired, and no report both updates and
retires a rule. -/
theorem lines_of_reports (actions : List TableAction) :
    let h := of actions
    (∀ r, h.table.statuses.contains r → h.table.contains r) ∧
      h.reports.foldl SyncTable.replay ∅ = h.table.statuses ∧
      (∀ r, (changes h.reports r).IsChain Differ) ∧
      ∀ t ∈ h.reports, ∀ u ∈ t.updates, ∀ x ∈ t.retired, u.1 ≠ x.ruleId := by
  intro h
  have hr : h.Reported := reported actions
  refine ⟨fun r hline => ?_, hr.replayed, fun r => (hr.rule r).differ, hr.apart⟩
  rw [SortedMap.contains, Option.isSome_iff_ne_none] at hline
  rw [SyncTable.contains, SortedMap.contains, Option.isSome_iff_ne_none]
  exact fun hop => hline ((hr.rule r).tracked hop)

end TableRun

end MediaMonitor
