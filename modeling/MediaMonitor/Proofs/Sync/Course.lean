import MediaMonitor.Proofs.Sync.Table
import MediaMonitor.Sync.Tracker

/-!
# The course of a tracker

A `TrackerCourse` is a tracker with a clock and a log of all that came about.  Its owner hands over
operations and may shut it down, milliseconds pass, replies come, and in between the task takes its
turns; no time passes while it has a turn to take.  As to the table, every action makes one of three
moves (`TrackerCourse.Move`): it leaves the table alone, takes a registration into it, or applies a
snapshot.
-/

namespace MediaMonitor

/-- What came about. -/
inductive TrackerNote where
  /-- An operation was handed over, and accepted. -/
  | accepted (op : SyncOperation)
  /-- The task took a registration. -/
  | registered (op : SyncOperation)
  /-- The task asked for a snapshot. -/
  | requested
  /-- A reply came, and observers were told of events. -/
  | replied (answer : Except MaintenanceError SyncSnapshot) (events : List Event)
  /-- The task stopped. -/
  | stopped

/-- What happens to a tracker. -/
inductive TrackerAction where
  | track (op : SyncOperation)
  /-- A millisecond passes. -/
  | tick
  /-- The task takes its turn. -/
  | turn
  /-- The reply to the request that is outstanding comes. -/
  | reply (answer : Except MaintenanceError SyncSnapshot)
  | shutdown

/-- A tracker, the time, and what came about at which time. -/
structure TrackerCourse where
  tracker : Tracker
  now : Nat := 0
  log : List (Nat × TrackerNote) := []

namespace TrackerCourse

/-- Goes on with a tracker, and a note of what came about. -/
def record (h : TrackerCourse) (tracker : Tracker) (note : TrackerNote) : TrackerCourse :=
  { h with tracker := tracker, log := h.log ++ [(h.now, note)] }

/-- The task takes its turn. -/
def turn (h : TrackerCourse) : Tracker.Turn → TrackerCourse
  | .stop => h.record (h.tracker.take h.now .stop) .stopped
  | .register =>
      match h.tracker.queue with
      | [] => h
      | op :: _ => h.record (h.tracker.take h.now .register) (.registered op)
  | .request => h.record (h.tracker.take h.now .request) .requested

/-- Goes on with an action. -/
def step (h : TrackerCourse) : TrackerAction → TrackerCourse
  | .track op =>
      match h.tracker.track op with
      | .ok tracker => h.record tracker (.accepted op)
      | .error _ => h
  | .tick => if h.tracker.turn? h.now = none then { h with now := h.now + 1 } else h
  | .turn =>
      match h.tracker.turn? h.now with
      | some turn => h.turn turn
      | none => h
  | .reply answer =>
      -- a task that was cancelled stops before it looks at the reply
      if h.tracker.phase = .polling ∧ h.tracker.turn? h.now = none then
        let (tracker, events) := h.tracker.reply h.now answer
        h.record tracker (.replied answer events)
      else h
  | .shutdown => { h with tracker := h.tracker.shutdown }

/-- The course of a tracker that polls at an interval. -/
def of (interval : Nat) (actions : List TrackerAction) : TrackerCourse :=
  actions.foldl step { tracker := { interval := interval } }

/-! ### The moves of a tracker -/

/-- What an action does to the table, and what it says of it. -/
inductive Move (h h' : TrackerCourse) : Prop where
  /-- The table stays as it is, and observers are told of nothing. -/
  | still (notes : List (Nat × TrackerNote)) (hlog : h'.log = h.log ++ notes)
      (hquiet : ∀ n ∈ notes, (∀ op, n.2 ≠ .registered op) ∧
        ∀ answer events, n.2 = .replied answer events → events = [])
      (htable : h'.tracker.table = h.tracker.table)
  | register (op : SyncOperation) (hlog : h'.log = h.log ++ [(h.now, .registered op)])
      (htable : h'.tracker.table = h.tracker.table.insert op)
  | apply (s : SyncSnapshot)
      (hlog : h'.log = h.log ++
        [(h.now, .replied (.ok s) (h.tracker.table.applySnapshot s).1.events)])
      (htable : h'.tracker.table = (h.tracker.table.applySnapshot s).2)

section
variable {h : TrackerCourse}

theorem Move.refl (h : TrackerCourse) : Move h h :=
  .still [] (List.append_nil _).symm (fun _ hn => by cases hn) rfl

/-- What is no registration and no reply is quiet. -/
theorem Move.note {tracker : Tracker} {note : TrackerNote}
    (htable : tracker.table = h.tracker.table) (hop : ∀ op, note ≠ .registered op)
    (hevents : ∀ answer events, note = .replied answer events → events = []) :
    Move h (h.record tracker note) := by
  refine .still [(h.now, note)] rfl (fun n hn => ?_) htable
  rw [List.mem_singleton.mp hn]
  exact ⟨hop, hevents⟩

/-- A turn of the task at most takes a registration. -/
theorem move_turn (h : TrackerCourse) (turn : Tracker.Turn) : Move h (h.turn turn) := by
  cases turn with
  | stop => exact .note rfl nofun nofun
  | request => exact .note rfl nofun nofun
  | register =>
      rw [TrackerCourse.turn]
      cases hqueue : h.tracker.queue with
      | nil => exact .refl h
      | cons op rest =>
          refine .register op rfl ?_
          simp only [record, Tracker.take, hqueue, Tracker.register, Tracker.publish]

/-- A reply is a snapshot, or it changes nothing. -/
theorem move_reply (hp : h.tracker.phase = .polling)
    (answer : Except MaintenanceError SyncSnapshot) :
    Move h (h.record (h.tracker.reply h.now answer).1
      (.replied answer (h.tracker.reply h.now answer).2)) := by
  cases answer with
  | error e =>
      have hreply : h.tracker.reply h.now (.error e) = (h.tracker.rearm h.now, []) := by
        rw [Tracker.reply, if_neg (by simp [hp])]
      rw [hreply]
      refine .note rfl nofun ?_
      rintro answer events heq
      cases heq
      rfl
  | ok s =>
      have hreply : h.tracker.reply h.now (.ok s) =
          ((Tracker.publish { h.tracker with table := (h.tracker.table.applySnapshot s).2 }).rearm
            h.now, (h.tracker.table.applySnapshot s).1.events) := by
        rw [Tracker.reply, if_neg (by simp [hp])]
      rw [hreply]
      exact .apply s rfl rfl

/-- **Every action makes one of the moves.** -/
theorem move_step (h : TrackerCourse) (a : TrackerAction) : Move h (h.step a) := by
  cases a with
  | track op =>
      rw [step]
      cases htrack : h.tracker.track op with
      | error e => exact .refl h
      | ok tracker =>
          refine .note ?_ nofun nofun
          rw [Tracker.track] at htrack
          split at htrack
          · cases htrack
          · split at htrack
            · cases htrack
            · cases htrack; rfl
  | tick =>
      rw [step]
      split
      · exact .still [] (List.append_nil _).symm (fun _ hn => by cases hn) rfl
      · exact .refl h
  | turn =>
      rw [step]
      split
      · exact move_turn h _
      · exact .refl h
  | reply answer =>
      rw [step]
      split
      case isTrue hp => exact move_reply hp.1 answer
      case isFalse => exact .refl h
  | shutdown => exact .still [] (List.append_nil _).symm (fun _ hn => by cases hn) rfl

end

/-- What holds at first and is preserved by every move holds of every course. -/
theorem induction {P : TrackerCourse → Prop} {interval : Nat}
    (hp : P { tracker := { interval := interval } })
    (hmove : ∀ h h', Move h h' → P h → P h') (actions : List TrackerAction) :
    P (of interval actions) := by
  suffices ∀ h, P h → P (actions.foldl step h) from this _ hp
  induction actions with
  | nil => exact fun _ hp => hp
  | cons a rest ih => exact fun h hp => ih _ (hmove h _ (move_step h a) hp)

end TrackerCourse

end MediaMonitor
