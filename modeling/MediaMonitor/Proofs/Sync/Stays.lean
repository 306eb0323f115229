import MediaMonitor.Proofs.Sync.Course

/-!
# The stays of a rule

Between the registration that brings a rule into the table and the snapshot that retires it lies a
`Stay`.  What observers are told of the rule are lines during its stays, no line twice in a row, and
a farewell at the end of each: the libraries that failed, if any did, whether the candidates are
stale, and that the syncs are complete (`TrackerCourse.notes_of_stays`).
-/

namespace MediaMonitor

/-! ### Events about one rule -/

/-- The rule that an event is about. -/
def Event.ruleId? : Event → Option Int64
  | .sync (.started r _) => some r
  | .sync (.startFailed r _ _) => some r
  | .sync (.progress r _) => some r
  | .sync (.completed r _) => some r
  | .sync (.failed r _ _) => some r
  | .library (.candidatesStale r) => some r
  | .library (.selectionCleared r) => some r
  | .deletion (.started _ r _) => some r
  | .deletion _ => none

/-- The events about a rule. -/
def ruleEvents (r : Int64) (events : List Event) : List Event :=
  events.filter (·.ruleId? = some r)

theorem ruleEvents_append (r : Int64) (xs ys : List Event) :
    ruleEvents r (xs ++ ys) = ruleEvents r xs ++ ruleEvents r ys :=
  List.filter_append ..

/-- What observers are told of a retired operation is about its rule. -/
theorem ruleEvents_retired (r : Int64) (x : RetiredOperation) :
    ruleEvents r x.events = if x.ruleId = r then x.events else [] := by
  have hall : ∀ e ∈ x.events, e.ruleId? = some x.ruleId := by
    intro e he
    simp only [RetiredOperation.events, List.mem_append] at he
    rcases he with (he | he) | he
    · split at he
      · rw [List.mem_singleton.mp he]; rfl
      · cases he
    · split at he
      · rw [List.mem_singleton.mp he]; rfl
      · cases he
    · rw [List.mem_singleton.mp he]; rfl
  split
  case isTrue h =>
    exact List.filter_eq_self.mpr (fun e he => decide_eq_true ((hall e he).trans (congrArg some h)))
  case isFalse h =>
    refine List.filter_eq_nil_iff.mpr (fun e he heq => h ?_)
    exact Option.some.inj ((hall e he).symm.trans (of_decide_eq_true heq))

/-- What observers are told of a rule after a snapshot. -/
theorem ruleEvents_report (r : Int64) (t : TickReport) :
    ruleEvents r t.events =
      (t.linesOf r).map (fun line => .sync (.progress r line)) ++
        (t.retiredOf r).flatMap (·.events) := by
  rw [TickReport.events, ruleEvents_append]
  congr 1
  · rw [TickReport.linesOf]
    induction t.updates with
    | nil => rfl
    | cons u rest ih =>
        rw [List.map_cons, ruleEvents, List.filter_cons, ← ruleEvents, ih]
        by_cases h : u.1 = r <;> simp [Event.ruleId?, h]
  · rw [TickReport.retiredOf]
    induction t.retired with
    | nil => rfl
    | cons x rest ih =>
        rw [List.flatMap_cons, ruleEvents_append, ruleEvents_retired, ih]
        by_cases h : x.ruleId = r <;> simp [h]

/-! ### The farewell to an operation -/

namespace SyncOperation

/-- The job of a key is in the error phase. -/
def inError (s : SyncSnapshot) (k : TrackedKey) : Bool := (s.get? k.key).any (·.phase = .error)

/-- The keys whose jobs are in the error phase, in their order. -/
def failing (op : SyncOperation) (s : SyncSnapshot) : List TrackedKey :=
  op.keys.filter (inError s)

/-- What the job of a key says about its error. -/
def reason (s : SyncSnapshot) (k : TrackedKey) : String :=
  ((s.get? k.key).bind (·.error)).getD "Sync failed"

/-- What observers are told when an operation retires. -/
def farewell (op : SyncOperation) (r : Int64) (s : SyncSnapshot) : List Event :=
  let failing := op.failing s
  let refreshed := !op.keys.all (inError s)
  let message := "; ".intercalate (failing.map (fun k => k.libraryName ++ ": " ++ reason s k))
  (if failing = [] then [] else [.sync (.failed r message (failing.map (·.libraryName)))]) ++
    (if refreshed then [.library (.candidatesStale r)] else []) ++
    [.sync (.completed r refreshed)]

theorem keyError?_eq (s : SyncSnapshot) (k : TrackedKey) :
    keyError? s k = if inError s k then some ⟨k.libraryName, reason s k⟩ else none := by
  rw [keyError?, inError, reason]
  cases s.get? k.key with
  | none => rfl
  | some job => simp

/-- The errors of an operation are those of its failing keys, in their order. -/
theorem errors_eq (op : SyncOperation) (s : SyncSnapshot) :
    op.errors s = (op.failing s).map (fun k => ⟨k.libraryName, reason s k⟩) := by
  rw [errors, failing]
  induction op.keys with
  | nil => rfl
  | cons k rest ih =>
      rw [List.filterMap_cons, keyError?_eq, List.filter_cons, ih]
      by_cases h : inError s k = true <;> simp [h]

/-- A retired operation has not failed as a whole unless all its keys have. -/
theorem length_errors_lt (op : SyncOperation) (s : SyncSnapshot) :
    (op.errors s).length < op.keys.length ↔ (!op.keys.all (inError s)) = true := by
  rw [errors_eq, List.length_map, failing, List.length_filter_lt_length_iff_exists]
  simp

theorem events_retired (op : SyncOperation) (r : Int64) (s : SyncSnapshot) :
    RetiredOperation.events ⟨r, op.errors s, op.keys.length⟩ = op.farewell r s := by
  have hrefresh : RetiredOperation.shouldRefetch ⟨r, op.errors s, op.keys.length⟩ =
      !op.keys.all (inError s) := by
    rw [RetiredOperation.shouldRefetch, Bool.eq_iff_iff, decide_eq_true_iff, length_errors_lt]
  rw [RetiredOperation.events, farewell, hrefresh, RetiredOperation.errorMessage?, errors_eq]
  by_cases h : op.failing s = [] <;> simp [h, Function.comp_def]

end SyncOperation

/-! ### What is noted of a rule -/

/-- What is noted of a rule. -/
inductive RuleNote where
  /-- Its syncs, or more of them, were registered. -/
  | joined (op : SyncOperation)
  /-- With a reply, observers were told of events about it. -/
  | told (answer : Except MaintenanceError SyncSnapshot) (events : List Event)

/-- The events that observers are told of. -/
def RuleNote.events : RuleNote → List Event
  | .joined _ => []
  | .told _ events => events

/-- The events that observers are told of. -/
def TrackerNote.events : TrackerNote → List Event
  | .replied _ events => events
  | _ => []

/-- All events that observers were told of, the oldest first. -/
def TrackerCourse.events (h : TrackerCourse) : List Event := h.log.flatMap (·.2.events)

/-- What a note says about a rule, if anything. -/
def TrackerNote.about (r : Int64) : TrackerNote → Option RuleNote
  | .registered op => if op.ruleId = r then some (.joined op) else none
  | .replied answer events =>
      if ruleEvents r events = [] then none else some (.told answer (ruleEvents r events))
  | _ => none

/-- All that is noted of a rule, the oldest first. -/
def TrackerCourse.notesAbout (h : TrackerCourse) (r : Int64) : List RuleNote :=
  h.log.filterMap (fun n => n.2.about r)

/-- The events about a rule are those in the notes about it. -/
theorem TrackerCourse.ruleEvents_events (h : TrackerCourse) (r : Int64) :
    ruleEvents r h.events = (h.notesAbout r).flatMap (·.events) := by
  rw [events, notesAbout]
  induction h.log with
  | nil => rfl
  | cons n rest ih =>
      rw [List.flatMap_cons, ruleEvents_append, ih, List.filterMap_cons]
      rcases n with ⟨time, op | op | _ | ⟨answer, events⟩ | _⟩
      · rfl
      · by_cases hrule : op.ruleId = r <;>
          simp [TrackerNote.about, TrackerNote.events, RuleNote.events, ruleEvents, hrule]
      · rfl
      · by_cases hnone : ruleEvents r events = [] <;>
          simp [TrackerNote.about, TrackerNote.events, RuleNote.events, hnone]
      · rfl

/-! ### Stays -/

/-- What happens to a rule that is tracked. -/
inductive StayNote where
  | joined (op : SyncOperation)
  /-- A snapshot gives it a new line. -/
  | line (s : SyncSnapshot) (line : String)

/-- The time of a rule in the table, from its registration on. -/
structure Stay where
  first : SyncOperation
  course : List StayNote := []

namespace Stay

/-- What is noted of the rule. -/
def notes (stay : Stay) (r : Int64) : List RuleNote :=
  .joined stay.first :: stay.course.map (fun
    | .joined op => .joined op
    | .line s line => .told (.ok s) [.sync (.progress r line)])

/-- The operation, with the keys of all its registrations. -/
def operation (stay : Stay) : SyncOperation :=
  stay.course.foldl (fun op n => match n with
    | .joined more => op.merge more.keys
    | .line _ _ => op) stay.first

/-- The lines, the oldest first. -/
def lines (stay : Stay) : List String :=
  stay.course.filterMap (fun
    | .joined _ => none
    | .line _ line => some line)

/-- The events of a stay are its lines. -/
theorem events_notes (stay : Stay) (r : Int64) :
    (stay.notes r).flatMap (·.events) =
      stay.lines.map (fun line => .sync (.progress r line)) := by
  rw [notes, lines, List.flatMap_cons, RuleNote.events, List.nil_append]
  induction stay.course with
  | nil => rfl
  | cons n rest ih =>
      rw [List.map_cons, List.flatMap_cons, ih]
      cases n <;> rfl

/-- The stay goes on. -/
def extend (stay : Stay) (n : StayNote) : Stay := { stay with course := stay.course ++ [n] }

section
variable (stay : Stay)

theorem notes_joined (op : SyncOperation) (r : Int64) :
    (stay.extend (.joined op)).notes r = stay.notes r ++ [.joined op] := by
  simp [notes, extend]

theorem notes_line (s : SyncSnapshot) (line : String) (r : Int64) :
    (stay.extend (.line s line)).notes r =
      stay.notes r ++ [.told (.ok s) [.sync (.progress r line)]] := by
  simp [notes, extend]

theorem operation_joined (op : SyncOperation) :
    (stay.extend (.joined op)).operation = stay.operation.merge op.keys := by
  simp [operation, extend]

theorem operation_line (s : SyncSnapshot) (line : String) :
    (stay.extend (.line s line)).operation = stay.operation := by
  simp [operation, extend]

theorem lines_joined (op : SyncOperation) : (stay.extend (.joined op)).lines = stay.lines := by
  simp [lines, extend]

theorem lines_line (s : SyncSnapshot) (line : String) :
    (stay.extend (.line s line)).lines = stay.lines ++ [line] := by
  simp [lines, extend]

end

end Stay

/-- A stay that is over, and the snapshot that ended it. -/
structure PastStay extends Stay where
  last : SyncSnapshot

namespace PastStay

/-- What is noted of the rule: in the end, observers are told a farewell. -/
def notes (past : PastStay) (r : Int64) : List RuleNote :=
  past.toStay.notes r ++ [.told (.ok past.last) (past.operation.farewell r past.last)]

theorem events_notes (past : PastStay) (r : Int64) :
    (past.notes r).flatMap (·.events) =
      past.lines.map (fun line => .sync (.progress r line)) ++
        past.operation.farewell r past.last := by
  rw [notes, List.flatMap_append, Stay.events_notes, List.flatMap_singleton, RuleNote.events]

end PastStay

namespace TrackerCourse

/-- The notes of a rule are those of its past stays and of the present one, if it is tracked. -/
structure Stayed (h : TrackerCourse) (r : Int64) (past : List PastStay) (present : Option Stay) :
    Prop where
  notes : h.notesAbout r = past.flatMap (·.notes r) ++ present.toList.flatMap (·.notes r)
  ended : ∀ stay ∈ past, stay.lines.IsChain (· ≠ ·) ∧ stay.operation.status? stay.last = none
  current : ∀ stay ∈ present, stay.lines.IsChain (· ≠ ·)
  operation : present.map (·.operation) = h.tracker.table.operations.find? r
  line : present.bind (·.lines.getLast?) = h.tracker.table.statuses.find? r

section
variable {h h' : TrackerCourse} {r : Int64} {past : List PastStay}

/-- Nothing is noted of a rule that is not touched. -/
theorem Stayed.keep {present : Option Stay} (hs : h.Stayed r past present)
    (hnotes : h'.notesAbout r = h.notesAbout r)
    (hop : h'.tracker.table.operations.find? r = h.tracker.table.operations.find? r)
    (hline : h'.tracker.table.statuses.find? r = h.tracker.table.statuses.find? r) :
    h'.Stayed r past present :=
  ⟨hnotes.trans hs.notes, hs.ended, hs.current, hs.operation.trans hop.symm,
    hs.line.trans hline.symm⟩

/-- A rule that is not tracked is registered. -/
theorem Stayed.arrive (hs : h.Stayed r past none) (op : SyncOperation)
    (hnotes : h'.notesAbout r = h.notesAbout r ++ [.joined op])
    (hop : h'.tracker.table.operations.find? r = some op)
    (hline : h'.tracker.table.statuses.find? r = h.tracker.table.statuses.find? r) :
    h'.Stayed r past (some ⟨op, []⟩) where
  notes := by rw [hnotes, hs.notes]; simp [Stay.notes]
  ended := hs.ended
  current stay hstay := by cases hstay; exact .nil
  operation := hop.symm
  line := hs.line.trans hline.symm

section
variable {stay : Stay} (hs : h.Stayed r past (some stay))
include hs

/-- A rule that is tracked is registered again. -/
theorem Stayed.join (op : SyncOperation)
    (hnotes : h'.notesAbout r = h.notesAbout r ++ [.joined op])
    (hop : h'.tracker.table.operations.find? r = some (stay.operation.merge op.keys))
    (hline : h'.tracker.table.statuses.find? r = h.tracker.table.statuses.find? r) :
    h'.Stayed r past (some (stay.extend (.joined op))) where
  notes := by rw [hnotes, hs.notes]; simp [Stay.notes_joined]
  ended := hs.ended
  current stay' hstay := by
    cases hstay
    rw [Stay.lines_joined]
    exact hs.current stay rfl
  operation := by rw [hop, Option.map_some, Stay.operation_joined]
  line := by rw [hline, ← hs.line, Option.bind_some, Option.bind_some, Stay.lines_joined]

/-- A rule gets a line that is not the one it has. -/
theorem Stayed.tell (s : SyncSnapshot) (line : String)
    (hnew : h.tracker.table.statuses.find? r ≠ some line)
    (hnotes : h'.notesAbout r = h.notesAbout r ++ [.told (.ok s) [.sync (.progress r line)]])
    (hop : h'.tracker.table.operations.find? r = h.tracker.table.operations.find? r)
    (hline : h'.tracker.table.statuses.find? r = some line) :
    h'.Stayed r past (some (stay.extend (.line s line))) where
  notes := by rw [hnotes, hs.notes]; simp [Stay.notes_line]
  ended := hs.ended
  current stay' hstay := by
    cases hstay
    rw [Stay.lines_line]
    refine (hs.current stay rfl).append (.singleton line) ?_
    -- the line before is the one the table has
    rintro last hlast _ hmem rfl
    cases hmem
    exact hnew (hs.line.symm.trans hlast)
  operation := by rw [hop, ← hs.operation, Option.map_some, Option.map_some, Stay.operation_line]
  line := by rw [hline, Option.bind_some, Stay.lines_line, List.getLast?_concat]

/-- A rule retires. -/
theorem Stayed.retire (s : SyncSnapshot) (hstatus : stay.operation.status? s = none)
    (hnotes : h'.notesAbout r =
      h.notesAbout r ++ [.told (.ok s) (stay.operation.farewell r s)])
    (hop : h'.tracker.table.operations.find? r = none)
    (hline : h'.tracker.table.statuses.find? r = none) :
    h'.Stayed r (past ++ [⟨stay, s⟩]) none where
  notes := by rw [hnotes, hs.notes]; simp [PastStay.notes]
  ended stay' hstay := by
    rcases List.mem_append.mp hstay with hstay | hstay
    · exact hs.ended stay' hstay
    · rw [List.mem_singleton.mp hstay]
      exact ⟨hs.current stay rfl, hstatus⟩
  current stay' hstay := by cases hstay
  operation := hop.symm
  line := hline.symm

end

theorem notesAbout_record {notes : List (Nat × TrackerNote)} (hlog : h'.log = h.log ++ notes)
    (r : Int64) :
    h'.notesAbout r = h.notesAbout r ++ notes.filterMap (fun n => n.2.about r) := by
  rw [notesAbout, hlog, List.filterMap_append, notesAbout]

/-- A note that is quiet says nothing about any rule. -/
theorem about_of_quiet {note : TrackerNote} (hop : ∀ op, note ≠ .registered op)
    (hevents : ∀ answer events, note = .replied answer events → events = []) (r : Int64) :
    note.about r = none := by
  cases note with
  | registered op => exact absurd rfl (hop op)
  | replied answer events => rw [hevents answer events rfl]; rfl
  | accepted op => rfl
  | requested => rfl
  | stopped => rfl

/-- A registration begins a stay of its rule, or goes on with it. -/
theorem Stayed.register {present : Option Stay} (hs : h.Stayed r past present)
    (op : SyncOperation) (hlog : h'.log = h.log ++ [(h.now, .registered op)])
    (htable : h'.tracker.table = h.tracker.table.insert op) :
    ∃ present, h'.Stayed r past present := by
  have hnotes := notesAbout_record hlog r
  have hline : h'.tracker.table.statuses.find? r = h.tracker.table.statuses.find? r := by
    rw [htable]; rfl
  have hfind := SyncTable.find?_insert h.tracker.table op r
  rw [← htable] at hfind
  by_cases hrule : op.ruleId = r
  · simp only [List.filterMap_cons, List.filterMap_nil, TrackerNote.about, if_pos hrule] at hnotes
    rw [if_pos hrule, ← hs.operation] at hfind
    cases present with
    | none => exact ⟨_, hs.arrive op hnotes hfind hline⟩
    | some stay => exact ⟨_, hs.join op hnotes hfind hline⟩
  · simp only [List.filterMap_cons, List.filterMap_nil, TrackerNote.about, if_neg hrule,
      List.append_nil] at hnotes
    rw [if_neg hrule] at hfind
    exact ⟨_, hs.keep hnotes hfind hline⟩

/-- A snapshot gives the rule a new line, or leaves it as it is, or ends its stay. -/
theorem Stayed.apply {present : Option Stay} (hs : h.Stayed r past present) (s : SyncSnapshot)
    (hlog : h'.log =
      h.log ++ [(h.now, .replied (.ok s) (h.tracker.table.applySnapshot s).1.events)])
    (htable : h'.tracker.table = (h.tracker.table.applySnapshot s).2) :
    ∃ past present, h'.Stayed r past present := by
  have hnotes := notesAbout_record hlog r
  rw [List.filterMap_cons, List.filterMap_nil, TrackerNote.about, ruleEvents_report] at hnotes
  have hseen := SyncTable.seen h.tracker.table s r
  rw [← htable] at hseen
  cases hseen with
  | untracked hop hlines hretired hop' hline' =>
      rw [hlines, hretired] at hnotes
      exact ⟨_, _, hs.keep (by simpa using hnotes) (hop'.trans hop.symm) hline'⟩
  | kept op line hop hline hlines hretired hop' hline' =>
      rw [hlines, hretired] at hnotes
      by_cases hsame : h.tracker.table.statuses.find? r = some line
      · exact ⟨_, _, hs.keep (by simpa [hsame] using hnotes) (hop'.trans hop.symm)
          (hline'.trans hsame.symm)⟩
      · obtain ⟨stay, rfl, -⟩ := Option.map_eq_some_iff.mp (hs.operation.trans hop)
        exact ⟨_, _, hs.tell s line hsame (by simpa [hsame] using hnotes) (hop'.trans hop.symm)
          hline'⟩
  | retired op hop hline hlines hretired hop' hline' =>
      obtain ⟨stay, rfl, rfl⟩ := Option.map_eq_some_iff.mp (hs.operation.trans hop)
      rw [hlines, hretired, List.flatMap_singleton, SyncOperation.events_retired] at hnotes
      have hsome : stay.operation.farewell r s ≠ [] := by simp [SyncOperation.farewell]
      exact ⟨_, _, hs.retire s hline (by simpa [hsome] using hnotes) hop' hline'⟩

/-- **Every move goes on with the stays of a rule.** -/
theorem Stayed.move {present : Option Stay} (hs : h.Stayed r past present) (hm : Move h h') :
    ∃ past present, h'.Stayed r past present := by
  cases hm with
  | still notes hlog hquiet htable =>
      have hnone : notes.filterMap (fun n => n.2.about r) = [] :=
        List.filterMap_eq_nil_iff.mpr
          (fun n hn => about_of_quiet (hquiet n hn).1 (hquiet n hn).2 r)
      have hnotes := notesAbout_record hlog r
      rw [hnone, List.append_nil] at hnotes
      exact ⟨_, _, hs.keep hnotes (by rw [htable]) (by rw [htable])⟩
  | register op hlog htable => exact ⟨_, hs.register op hlog htable⟩
  | apply s hlog htable => exact hs.apply s hlog htable

end

theorem stayed (interval : Nat) (actions : List TrackerAction) (r : Int64) :
    ∃ past present, (of interval actions).Stayed r past present := by
  refine induction (P := fun h => ∃ past present, h.Stayed r past present) ?_ ?_ actions
  · refine ⟨[], none, rfl, ?_, ?_, rfl, rfl⟩
    · intro stay hmem; cases hmem
    · intro stay hmem; cases hmem
  · rintro h h' hm ⟨past, present, hs⟩
    exact hs.move hm

/-- **What observers are told of a rule are its stays**: lines, no line twice in a row, and at the
end of each a farewell, when a snapshot has no line for it any more.  A stay begins with a
registration, and the rule is tracked while one is not over. -/
theorem events_of_stays (interval : Nat) (actions : List TrackerAction) (r : Int64) :
    let h := of interval actions
    ∃ (past : List PastStay) (present : Option Stay), h.Stayed r past present ∧
      (h.tracker.table.contains r ↔ present ≠ none) ∧
      ruleEvents r h.events =
        past.flatMap (fun stay => stay.lines.map (fun line => .sync (.progress r line)) ++
          stay.operation.farewell r stay.last) ++
        present.toList.flatMap (fun stay => stay.lines.map (fun line =>
          .sync (.progress r line))) := by
  intro h
  obtain ⟨past, present, hs⟩ := stayed interval actions r
  refine ⟨past, present, hs, ?_, ?_⟩
  · rw [SyncTable.contains, SortedMap.contains, ← hs.operation, Option.isSome_map,
      Option.isSome_iff_ne_none]
  · rw [ruleEvents_events, hs.notes, List.flatMap_append, List.flatMap_assoc, List.flatMap_assoc]
    simp only [PastStay.events_notes, Stay.events_notes]

end TrackerCourse

end MediaMonitor
