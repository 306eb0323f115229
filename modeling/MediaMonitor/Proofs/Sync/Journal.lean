import MediaMonitor.Proofs.Sync.Course

/-!
# The log of a tracker

`TrackerCourse.Step` says in full what an action does to a course, and with it which note it adds to
the log, if any.  The log keeps enough to go by it alone: replayed, it gives the table
(`TrackerCourse.tableOf_log`), and every part of it from the start is the log of an earlier course,
which the note after it follows by one step (`TrackerCourse.exists_step`).
-/

namespace MediaMonitor

/-- The table after a note. -/
def TrackerNote.after (t : SyncTable) : TrackerNote → SyncTable
  | .registered op => t.insert op
  | .replied (.ok s) _ => (t.applySnapshot s).2
  | _ => t

/-- The table that a log leads to. -/
def tableOf (log : List (Nat × TrackerNote)) : SyncTable := log.foldl (fun t n => n.2.after t) {}

theorem tableOf_append (xs ys : List (Nat × TrackerNote)) :
    tableOf (xs ++ ys) = ys.foldl (fun t n => n.2.after t) (tableOf xs) :=
  List.foldl_append

theorem tableOf_concat (log : List (Nat × TrackerNote)) (n : Nat × TrackerNote) :
    tableOf (log ++ [n]) = n.2.after (tableOf log) :=
  tableOf_append log [n]

namespace Tracker

variable {t : Tracker} {now : Nat}

/-! ### Turns -/

theorem of_turn_stop (h : t.turn? now = some .stop) : t.phase ≠ .stopped ∧ t.cancelled = true := by
  cases hcancelled : t.cancelled <;> grind [turn?]

theorem of_turn_register (h : t.turn? now = some .register) :
    t.cancelled = false ∧ t.queue ≠ [] ∧ (t.phase = .idle ∨ ∃ due, t.phase = .waiting due) := by
  cases hcancelled : t.cancelled <;> cases hphase : t.phase <;> grind [turn?]

theorem of_turn_request (h : t.turn? now = some .request) :
    t.cancelled = false ∧ t.queue = [] ∧ ∃ due, t.phase = .waiting due ∧ due ≤ now := by
  cases hcancelled : t.cancelled <;> cases hphase : t.phase <;> grind [turn?]

theorem uncancelled_of_polling (hphase : t.phase = .polling) (h : t.turn? now = none) :
    t.cancelled = false := by
  simpa [turn?, hphase] using h

/-- A task that waits for the time of its next request has it before it, and nothing to take. -/
theorem lt_of_waiting {due : Nat} (hphase : t.phase = .waiting due) (hc : t.cancelled = false)
    (h : t.turn? now = none) : t.queue = [] ∧ now < due := by
  grind [turn?]

section
variable {op : SyncOperation} {rest : List SyncOperation} (hqueue : t.queue = op :: rest)
include hqueue

theorem take_register_idle (hphase : t.phase = .idle) :
    t.take now .register =
      register { t with queue := rest, phase := .waiting (now + t.interval) } op := by
  rw [take, hqueue, hphase]

theorem take_register_waiting {due : Nat} (hphase : t.phase = .waiting due) :
    t.take now .register = register { t with queue := rest } op := by
  obtain ⟨interval, table, queue, view, publications, phase, cancelled⟩ := t
  cases hphase
  cases hqueue
  rfl

end

end Tracker

namespace TrackerCourse

/-! ### Steps -/

section
variable (h : TrackerCourse) (tracker : Tracker) (note : TrackerNote)

@[simp] theorem record_log : (h.record tracker note).log = h.log ++ [(h.now, note)] := rfl
@[simp] theorem record_tracker : (h.record tracker note).tracker = tracker := rfl
@[simp] theorem record_now : (h.record tracker note).now = h.now := rfl

end

/-- What an action does to a course. -/
inductive Step (h : TrackerCourse) : TrackerCourse → Prop where
  /-- Nothing. -/
  | refuse : Step h h
  | accept (op : SyncOperation) (hkeys : op.keys ≠ []) (hphase : h.tracker.phase ≠ .stopped) :
      Step h (h.record { h.tracker with queue := h.tracker.queue ++ [op] } (.accepted op))
  /-- A millisecond passes. -/
  | pass (hturn : h.tracker.turn? h.now = none) : Step h { h with now := h.now + 1 }
  | shutdown : Step h { h with tracker := h.tracker.shutdown }
  | stop (hphase : h.tracker.phase ≠ .stopped) (hcancelled : h.tracker.cancelled = true) :
      Step h (h.record { h.tracker with phase := .stopped } .stopped)
  /-- An idle task takes a registration, and sets its timer. -/
  | fill (op : SyncOperation) (rest : List SyncOperation) (hphase : h.tracker.phase = .idle)
      (hcancelled : h.tracker.cancelled = false) (hqueue : h.tracker.queue = op :: rest) :
      Step h (h.record
        (Tracker.register { h.tracker with
          queue := rest, phase := .waiting (h.now + h.tracker.interval) } op)
        (.registered op))
  /-- A task that waits for the time of its next request takes a registration, and waits on. -/
  | join (op : SyncOperation) (rest : List SyncOperation) (due : Nat)
      (hphase : h.tracker.phase = .waiting due) (hcancelled : h.tracker.cancelled = false)
      (hqueue : h.tracker.queue = op :: rest) :
      Step h (h.record (Tracker.register { h.tracker with queue := rest } op) (.registered op))
  | request (due : Nat) (hphase : h.tracker.phase = .waiting due)
      (hcancelled : h.tracker.cancelled = false) (hqueue : h.tracker.queue = [])
      (hdue : due ≤ h.now) :
      Step h (h.record { h.tracker with phase := .polling } .requested)
  /-- The reply is an error. -/
  | fail (e : MaintenanceError) (hphase : h.tracker.phase = .polling)
      (hcancelled : h.tracker.cancelled = false) :
      Step h (h.record (h.tracker.rearm h.now) (.replied (.error e) []))
  /-- The reply is a snapshot. -/
  | apply (s : SyncSnapshot) (hphase : h.tracker.phase = .polling)
      (hcancelled : h.tracker.cancelled = false) :
      Step h (h.record
        ((Tracker.publish { h.tracker with table := (h.tracker.table.applySnapshot s).2 }).rearm
          h.now)
        (.replied (.ok s) (h.tracker.table.applySnapshot s).1.events))

section
variable {h h' : TrackerCourse}

/-- An operation that is handed over is accepted or refused. -/
theorem step_track (h : TrackerCourse) (op : SyncOperation) : Step h (h.step (.track op)) := by
  rw [step, Tracker.track]
  by_cases hkeys : op.keys = []
  · rw [if_pos hkeys]; exact .refuse
  · by_cases hphase : h.tracker.phase = .stopped
    · rw [if_neg hkeys, if_pos hphase]; exact .refuse
    · rw [if_neg hkeys, if_neg hphase]; exact .accept op hkeys hphase

/-- The task takes a registration. -/
theorem step_register (hturn : h.tracker.turn? h.now = some .register) :
    Step h (h.turn .register) := by
  obtain ⟨hcancelled, hqueue, hphase⟩ := Tracker.of_turn_register hturn
  obtain ⟨op, rest, hqueue⟩ := List.exists_cons_of_ne_nil hqueue
  have hnote : h.turn .register = h.record (h.tracker.take h.now .register) (.registered op) := by
    rw [turn, hqueue]
  rw [hnote]
  rcases hphase with hphase | ⟨due, hphase⟩
  · rw [Tracker.take_register_idle hqueue hphase]
    exact .fill op rest hphase hcancelled hqueue
  · rw [Tracker.take_register_waiting hqueue hphase]
    exact .join op rest due hphase hcancelled hqueue

theorem step_turn {turn : Tracker.Turn} (hturn : h.tracker.turn? h.now = some turn) :
    Step h (h.turn turn) := by
  cases turn with
  | stop =>
      obtain ⟨hphase, hcancelled⟩ := Tracker.of_turn_stop hturn
      exact .stop hphase hcancelled
  | register => exact step_register hturn
  | request =>
      obtain ⟨hcancelled, hqueue, due, hphase, hdue⟩ := Tracker.of_turn_request hturn
      exact .request due hphase hcancelled hqueue hdue

/-- A task that was not cancelled takes the reply it waits for. -/
theorem step_reply (hphase : h.tracker.phase = .polling) (hcancelled : h.tracker.cancelled = false)
    (answer : Except MaintenanceError SyncSnapshot) :
    Step h (h.record (h.tracker.reply h.now answer).1
      (.replied answer (h.tracker.reply h.now answer).2)) := by
  cases answer with
  | error e => simpa [Tracker.reply, hphase] using Step.fail e hphase hcancelled
  | ok s => simpa [Tracker.reply, hphase] using Step.apply s hphase hcancelled

/-- **What an action does.** -/
theorem step_action (h : TrackerCourse) (a : TrackerAction) : Step h (h.step a) := by
  cases a with
  | track op => exact step_track h op
  | shutdown => exact .shutdown
  | tick =>
      rw [step]
      split
      case isTrue hturn => exact .pass hturn
      case isFalse => exact .refuse
  | turn =>
      rw [step]
      split
      case h_1 turn hturn => exact step_turn hturn
      case h_2 => exact .refuse
  | reply answer =>
      rw [step]
      split
      case isTrue hp => exact step_reply hp.1 (Tracker.uncancelled_of_polling hp.1 hp.2) answer
      case isFalse => exact .refuse

/-- **What holds at first and is preserved by every step holds of every course.** -/
theorem step_induction {P : TrackerCourse → Prop} {interval : Nat}
    (hp : P { tracker := { interval := interval } })
    (hstep : ∀ h h', Step h h' → P h → P h') (actions : List TrackerAction) :
    P (of interval actions) := by
  suffices ∀ h, P h → P (actions.foldl step h) from this _ hp
  induction actions with
  | nil => exact fun _ hp => hp
  | cons a rest ih => exact fun h hp => ih _ (hstep h _ (step_action h a) hp)

/-! ### The log -/

/-- A step adds one note to the log, or none. -/
theorem Step.log (hs : Step h h') : h'.log = h.log ∨ ∃ note, h'.log = h.log ++ [(h.now, note)] := by
  cases hs with
  | refuse | pass | shutdown => exact .inl rfl
  | accept | stop | fill | join | request | fail | apply => exact .inr ⟨_, rfl⟩

/-- A note of a request was added by a request, which the task made while it waited for its time. -/
theorem Step.of_requested (hs : Step h h') {time : Nat}
    (hlog : h'.log = h.log ++ [(time, .requested)]) :
    time = h.now ∧ h.tracker.cancelled = false ∧ h.tracker.queue = [] ∧
      ∃ due ≤ h.now, h.tracker.phase = .waiting due := by
  cases hs with
  | refuse | pass | shutdown => simp at hlog
  | accept | stop | fill | join | fail | apply => simp at hlog
  | request due hphase hcancelled hqueue hdue =>
      obtain rfl : h.now = time := by simpa using hlog
      exact ⟨rfl, hcancelled, hqueue, due, hdue, hphase⟩

/-- A note of a snapshot was added when the reply came, and tells what the snapshot did. -/
theorem Step.of_snapshot (hs : Step h h') {time : Nat} {s : SyncSnapshot} {events : List Event}
    (hlog : h'.log = h.log ++ [(time, .replied (.ok s) events)]) :
    h.tracker.phase = .polling ∧ events = (h.tracker.table.applySnapshot s).1.events := by
  cases hs with
  | refuse | pass | shutdown => simp at hlog
  | accept | stop | fill | join | request | fail => simp at hlog
  | apply s' hphase hcancelled =>
      obtain ⟨-, rfl, rfl⟩ : h.now = time ∧ s' = s ∧
          (h.tracker.table.applySnapshot s').1.events = events := by simpa using hlog
      exact ⟨hphase, rfl⟩

theorem Step.tableOf_log (hs : Step h h') (ht : tableOf h.log = h.tracker.table) :
    tableOf h'.log = h'.tracker.table := by
  cases hs with
  | refuse | pass | shutdown => exact ht
  | accept | stop | fill | join | request | fail | apply =>
      exact (tableOf_concat h.log _).trans (by rw [ht]; rfl)

/-- The table is the one that the log leads to. -/
theorem tableOf_log (interval : Nat) (actions : List TrackerAction) :
    tableOf (of interval actions).log = (of interval actions).tracker.table :=
  step_induction (P := fun h => tableOf h.log = h.tracker.table) rfl
    (fun _ _ hs ht => hs.tableOf_log ht) actions

theorem of_append (interval : Nat) (xs ys : List TrackerAction) :
    of interval (xs ++ ys) = ys.foldl step (of interval xs) :=
  List.foldl_append

/-- The last action makes a step. -/
theorem step_concat (interval : Nat) (actions : List TrackerAction) (a : TrackerAction) :
    Step (of interval actions) (of interval (actions ++ [a])) := by
  rw [of_append]
  exact step_action _ a

/-- **Every note in the log was added by one step of an earlier course**, whose log is what comes
before the note. -/
theorem exists_step {interval : Nat} {actions : List TrackerAction}
    {before after : List (Nat × TrackerNote)} {n : Nat × TrackerNote}
    (hlog : (of interval actions).log = before ++ n :: after) :
    ∃ earlier g, (of interval earlier).log = before ∧ Step (of interval earlier) g ∧
      g.log = before ++ [n] := by
  -- the last action added the last note, or none
  induction actions using List.reverseRecOn generalizing after with
  | nil => simp [of] at hlog
  | append_singleton earlier a ih =>
      have hs := step_concat interval earlier a
      rcases hs.log with hsame | ⟨note, hnote⟩
      · exact ih (hsame.symm.trans hlog)
      · rcases List.eq_nil_or_concat after with rfl | ⟨rest, last, rfl⟩
        · have hsplit := List.append_inj' (hnote.symm.trans hlog) rfl
          exact ⟨earlier, _, hsplit.1, hs, hlog⟩
        · rw [hnote, List.concat_eq_append, ← List.cons_append, ← List.append_assoc] at hlog
          exact ih (List.append_inj' hlog rfl).1

end

end TrackerCourse

end MediaMonitor
