import MediaMonitor.Proofs.Sync.Failures
import MediaMonitor.Proofs.Sync.Journal

/-!
# The published view

The task publishes a copy of its table whenever it has changed it, and the copy holds the status
lines of one snapshot: the last that was applied, for the operations that were in the table when it
came (`TrackerCourse.view_of_last_snapshot`).  Operations that join later have no line yet, and a
request that fails or is never answered changes nothing (`TrackerCourse.Unmoved`).
-/

namespace MediaMonitor

/-- Where untracked rules have no line, the lines after a snapshot are those of the operations. -/
theorem SyncTable.find?_statuses_applySnapshot {t : SyncTable} {r : Int64}
    (h : t.operations.find? r = none → t.statuses.find? r = none) (s : SyncSnapshot) :
    (t.applySnapshot s).2.statuses.find? r = (t.operations.find? r).bind (·.status? s) := by
  cases t.seen s r with
  | untracked hop _ _ _ hline' => rw [hline', h hop, hop]; rfl
  | kept op line hop hline _ _ _ hline' => rw [hline', hop, Option.bind_some, hline]
  | retired op hop hline _ _ _ hline' => rw [hline', hop, Option.bind_some, hline]

namespace TrackerCourse

variable {h h' : TrackerCourse}

/-! ### The table of a tracker -/

/-- The table of a tracker is that of a run. -/
theorem exists_run (interval : Nat) (actions : List TrackerAction) :
    ∃ run, (of interval actions).tracker.table = (TableRun.of run).table := by
  refine induction (P := fun h => ∃ run, h.tracker.table = (TableRun.of run).table)
    ⟨[], rfl⟩ ?_ actions
  rintro h h' hm ⟨run, hrun⟩
  cases hm with
  | still _ _ _ htable => exact ⟨run, htable.trans hrun⟩
  | register op _ htable =>
      exact ⟨run ++ [.insert op], by rw [htable, hrun, TableRun.of_concat]; rfl⟩
  | apply s _ htable =>
      exact ⟨run ++ [.snapshot s], by rw [htable, hrun, TableRun.of_concat]; rfl⟩

/-- A step that changes the table publishes it. -/
theorem Step.view (hs : Step h h') (hv : h.tracker.view = h.tracker.table.view) :
    h'.tracker.view = h'.tracker.table.view := by
  cases hs with
  | refuse | accept | pass | shutdown | stop | request | fail => exact hv
  | fill | join | apply => rfl

/-- No snapshot was applied in a part of the log. -/
def NoSnapshot (log : List (Nat × TrackerNote)) : Prop :=
  ∀ n ∈ log, ∀ s events, n.2 ≠ .replied (.ok s) events

theorem NoSnapshot.nil : NoSnapshot [] := fun _ hn => by cases hn

theorem NoSnapshot.single (time : Nat) {note : TrackerNote}
    (hnote : ∀ s events, note ≠ .replied (.ok s) events) : NoSnapshot [(time, note)] := by
  intro n hn
  rw [List.mem_singleton.mp hn]
  exact hnote

theorem NoSnapshot.append {log more : List (Nat × TrackerNote)} (hlog : NoSnapshot log)
    (hmore : NoSnapshot more) : NoSnapshot (log ++ more) := by
  intro n hn
  rcases List.mem_append.mp hn with hn | hn
  · exact hlog n hn
  · exact hmore n hn

/-- A course `h` went on from `g`, in which a request was outstanding, with the snapshot `s`, and
no other was applied afterwards. -/
structure LastSnapshot (h g : TrackerCourse) (s : SyncSnapshot) : Prop where
  polling : g.tracker.phase = .polling
  log : ∃ after, NoSnapshot after ∧
    h.log = g.log ++ (g.now, .replied (.ok s) (g.tracker.table.applySnapshot s).1.events) :: after

/-- A step leaves the status lines as they are, or it applies a snapshot. -/
theorem Step.statuses (hs : Step h h') :
    (h'.tracker.table.statuses = h.tracker.table.statuses ∧
        ∃ notes, NoSnapshot notes ∧ h'.log = h.log ++ notes) ∨
      ∃ s, LastSnapshot h' h s ∧
        h'.tracker.table.statuses = (h.tracker.table.applySnapshot s).2.statuses := by
  cases hs with
  | refuse | pass | shutdown => exact .inl ⟨rfl, [], .nil, (List.append_nil _).symm⟩
  | accept | stop | fill | join | request | fail =>
      refine .inl ⟨rfl, _, .single _ (fun _ _ => ?_), rfl⟩
      exact nofun
  | apply s hphase => exact .inr ⟨s, ⟨hphase, [], .nil, rfl⟩, rfl⟩

/-- The table, the copy and what observers were told are as they were. -/
structure Unmoved (h h' : TrackerCourse) : Prop where
  table : h'.tracker.table = h.tracker.table
  view : h'.tracker.view = h.tracker.view
  publications : h'.tracker.publications = h.tracker.publications
  events : h'.events = h.events

theorem Unmoved.refl (h : TrackerCourse) : Unmoved h h := ⟨rfl, rfl, rfl, rfl⟩

theorem Unmoved.trans {h'' : TrackerCourse} (hu : Unmoved h h') (hu' : Unmoved h' h'') :
    Unmoved h h'' :=
  ⟨hu'.table.trans hu.table, hu'.view.trans hu.view, hu'.publications.trans hu.publications,
    hu'.events.trans hu.events⟩

theorem events_record (h : TrackerCourse) (tracker : Tracker) (note : TrackerNote) :
    (h.record tracker note).events = h.events ++ note.events := by
  rw [events, record_log, List.flatMap_append, List.flatMap_singleton, ← events]

/-- The task waits for a reply, or for nothing. -/
def Held (h : TrackerCourse) : Prop := h.tracker.phase = .polling ∨ h.tracker.phase = .stopped

/-- While the task waits for a reply, nothing but a reply changes anything. -/
theorem Held.step (hh : h.Held) {a : TrackerAction} (ha : ∀ answer, a ≠ .reply answer) :
    Unmoved h (h.step a) ∧ (h.step a).Held := by
  have hquiet {note : TrackerNote} (hnote : note.events = []) (tracker : Tracker) :
      (h.record tracker note).events = h.events := by
    rw [events_record, hnote, List.append_nil]
  cases a with
  | track op =>
      rw [TrackerCourse.step, Tracker.track]
      by_cases hkeys : op.keys = []
      · rw [if_pos hkeys]; exact ⟨.refl h, hh⟩
      · by_cases hphase : h.tracker.phase = .stopped
        · rw [if_neg hkeys, if_pos hphase]; exact ⟨.refl h, hh⟩
        · rw [if_neg hkeys, if_neg hphase]; exact ⟨⟨rfl, rfl, rfl, hquiet rfl _⟩, hh⟩
  | tick =>
      rw [TrackerCourse.step]
      split
      · exact ⟨⟨rfl, rfl, rfl, rfl⟩, hh⟩
      · exact ⟨.refl h, hh⟩
  | turn =>
      rw [TrackerCourse.step]
      cases hturn : h.tracker.turn? h.now with
      | none => exact ⟨.refl h, hh⟩
      | some turn =>
          -- a task that waits for a reply can at most stop
          obtain rfl : turn = .stop := by
            rcases hh with hphase | hphase <;> grind [Tracker.turn?]
          exact ⟨⟨rfl, rfl, rfl, hquiet rfl _⟩, .inr rfl⟩
  | reply answer => exact absurd rfl (ha answer)
  | shutdown => exact ⟨⟨rfl, rfl, rfl, rfl⟩, hh⟩

/-- As long as no reply comes, nothing changes. -/
theorem Held.run (hh : h.Held) {more : List TrackerAction}
    (hmore : ∀ answer, .reply answer ∉ more) :
    Unmoved h (more.foldl TrackerCourse.step h) := by
  induction more generalizing h with
  | nil => exact .refl h
  | cons a rest ih =>
      obtain ⟨hu, hh'⟩ := hh.step (fun answer heq => hmore answer (heq ▸ List.mem_cons_self))
      exact hu.trans (ih hh' (fun answer hmem => hmore answer (List.mem_cons_of_mem _ hmem)))

end TrackerCourse

end MediaMonitor
