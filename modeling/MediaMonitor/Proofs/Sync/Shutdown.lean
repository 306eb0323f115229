import MediaMonitor.Proofs.Sync.Cadence
import MediaMonitor.Proofs.Sync.View

/-!
# After the shutdown

A tracker that was shut down has nothing left to do but to stop.  Whatever the task waits for, a
registration, the time of its next request or a reply, it looks at the cancellation first; so no
registration is taken, no request is made and no reply is looked at any more, even one that is there
already (`TrackerCourse.Halted`).  The task stops before any time passes, and from then on its owner
is told that it was cancelled (`TrackerCourse.quiet_after_shutdown`).

An owner who lets go of its tracker shuts it down as well, and hands over nothing afterwards.
-/

namespace MediaMonitor

namespace Tracker

variable {t : Tracker}

/-- A task that was cancelled and is not over stops next, whatever it waits for. -/
theorem turn?_of_cancelled (hcancelled : t.cancelled = true) (hphase : t.phase ≠ .stopped)
    (now : Nat) : t.turn? now = some .stop := by
  cases h : t.phase with
  | stopped => exact absurd h hphase
  | idle | waiting | polling => simp [turn?, h, hcancelled]

/-- A task that is over takes no operation. -/
theorem track_of_stopped (hphase : t.phase = .stopped) {op : SyncOperation} (hkeys : op.keys ≠ []) :
    t.track op = .error .cancelled := by
  rw [track, if_neg hkeys, if_pos hphase]

end Tracker

namespace TrackerCourse

variable {h g g' : TrackerCourse}

/-- A course `g` went on from `h` after its tracker was shut down: nothing was asked for and nothing
changed, and as long as the task is not over no time has passed. -/
structure Halted (h g : TrackerCourse) : Prop where
  cancelled : g.tracker.cancelled = true
  unmoved : Unmoved h g
  requests : requestTimes g.log = requestTimes h.log
  now : g.tracker.phase = .stopped ∨ g.now = h.now

theorem halted_shutdown (h : TrackerCourse) : Halted h (h.step .shutdown) :=
  ⟨rfl, ⟨rfl, rfl, rfl, rfl⟩, rfl, .inr rfl⟩

/-- A note that is no request and tells of nothing, while the table and its copy stay as they
are. -/
theorem Halted.note (hh : Halted h g) {tracker : Tracker} {note : TrackerNote}
    (htable : tracker.table = g.tracker.table) (hview : tracker.view = g.tracker.view)
    (hpublications : tracker.publications = g.tracker.publications)
    (hcancelled : tracker.cancelled = g.tracker.cancelled) (hevents : note.events = [])
    (hrequest : requestTimes [(g.now, note)] = [])
    (hnow : tracker.phase = .stopped ∨ tracker.phase = g.tracker.phase) :
    Halted h (g.record tracker note) where
  cancelled := hcancelled.trans hh.cancelled
  unmoved := hh.unmoved.trans
    ⟨htable, hview, hpublications, by rw [events_record, hevents, List.append_nil]⟩
  requests := by rw [requestTimes_record, hrequest, List.append_nil, hh.requests]
  now := by
    rcases hnow with hstopped | hphase
    · exact .inl hstopped
    · exact hh.now.imp_left hphase.trans

/-- **Every step leaves a tracker that was shut down as it is**, up to its queue and its end. -/
theorem Halted.step (hh : Halted h g) (hs : Step g g') : Halted h g' := by
  -- what the task does of its own, but for its end, it does uncancelled
  have habsurd {P : Prop} (huncancelled : g.tracker.cancelled = false) : P := by
    rw [hh.cancelled] at huncancelled
    cases huncancelled
  cases hs with
  | refuse => exact hh
  | accept op hkeys hphase => exact hh.note rfl rfl rfl rfl rfl rfl (.inr rfl)
  | shutdown => exact ⟨rfl, hh.unmoved.trans ⟨rfl, rfl, rfl, rfl⟩, hh.requests, hh.now⟩
  | stop hphase hcancelled => exact hh.note rfl rfl rfl rfl rfl rfl (.inl rfl)
  | pass hturn =>
      -- time passes only when there is no turn to take
      have hstopped : g.tracker.phase = .stopped := by
        by_contra hphase
        rw [Tracker.turn?_of_cancelled hh.cancelled hphase] at hturn
        cases hturn
      exact ⟨hh.cancelled, hh.unmoved.trans ⟨rfl, rfl, rfl, rfl⟩, hh.requests, .inl hstopped⟩
  | fill _ _ _ huncancelled => exact habsurd huncancelled
  | join _ _ _ _ huncancelled => exact habsurd huncancelled
  | request _ _ huncancelled => exact habsurd huncancelled
  | fail _ _ huncancelled => exact habsurd huncancelled
  | apply _ _ huncancelled => exact habsurd huncancelled

theorem Halted.run (hh : Halted h g) (more : List TrackerAction) :
    Halted h (more.foldl TrackerCourse.step g) := by
  induction more generalizing g with
  | nil => exact hh
  | cons a rest ih => exact ih (hh.step (step_action g a))

/-- A task that was shut down does not look at a reply. -/
theorem Halted.reply (hh : Halted h g) (answer : Except MaintenanceError SyncSnapshot) :
    g.step (.reply answer) = g := by
  rw [TrackerCourse.step, if_neg]
  rintro ⟨hpolling, hturn⟩
  have hcancelled := Tracker.uncancelled_of_polling hpolling hturn
  rw [hh.cancelled] at hcancelled
  cases hcancelled

/-- **A tracker that was shut down keeps still.**  Whatever happens afterwards, no request is made,
observers are told of nothing and the published copy stays as it is; a reply is not looked at.  The
task stops as soon as it gets its turn, before any time passes, and every operation handed over
after that is refused as cancelled. -/
theorem quiet_after_shutdown (interval : Nat) (actions more : List TrackerAction) :
    let h := of interval actions
    let g := of interval (actions ++ .shutdown :: more)
    requestTimes g.log = requestTimes h.log ∧ g.events = h.events ∧
      g.tracker.view = h.tracker.view ∧ g.tracker.publications = h.tracker.publications ∧
      (∀ answer, g.step (.reply answer) = g) ∧
      (g.tracker.phase ≠ .stopped →
        g.now = h.now ∧ g.step .tick = g ∧ (g.step .turn).tracker.phase = .stopped) ∧
      (g.tracker.phase = .stopped → ∀ op : SyncOperation, op.keys ≠ [] →
        g.tracker.track op = .error .cancelled ∧ g.step (.track op) = g) := by
  intro h g
  have hg : g = more.foldl step (h.step .shutdown) := of_append interval actions (.shutdown :: more)
  have hh : Halted h g := hg ▸ (halted_shutdown h).run more
  refine ⟨hh.requests, hh.unmoved.events, hh.unmoved.view, hh.unmoved.publications, hh.reply,
    fun hphase => ⟨hh.now.resolve_left hphase, ?_, ?_⟩, fun hphase op hkeys => ⟨?_, ?_⟩⟩
  · rw [step, Tracker.turn?_of_cancelled hh.cancelled hphase, if_neg (Option.some_ne_none _)]
  · rw [step, Tracker.turn?_of_cancelled hh.cancelled hphase]
    rfl
  · exact Tracker.track_of_stopped hphase hkeys
  · rw [step, Tracker.track_of_stopped hphase hkeys]

/-- While a request is outstanding and a registration is queued, the tracker is shut down; then the
snapshot comes that would retire a rule, and the task stops. -/
theorem quiet_while_polling :
    let op (rule : Int64) : SyncOperation := ⟨rule, [⟨⟨1, "shows"⟩, "Shows"⟩]⟩
    let actions : List TrackerAction := [.track (op 1), .turn, .tick, .turn, .track (op 2)]
    let more : List TrackerAction := [.reply (.ok ⟨∅⟩), .tick, .turn, .tick]
    let g := of 1 (actions ++ .shutdown :: more)
    (of 1 actions).tracker.phase = .polling ∧ (of 1 actions).tracker.queue = [op 2] ∧
      g.tracker.phase = .stopped ∧ g.now = 2 ∧ requestTimes g.log = [1] ∧ g.events = [] ∧
      g.tracker.view.tracked = [1] ∧ (op 3).keys ≠ [] ∧
      g.tracker.track (op 3) = .error .cancelled := by
  intro op actions more g
  have hphase : g.tracker.phase = .stopped := by decide +kernel
  have hkeys : (op 3).keys ≠ [] := List.cons_ne_nil _ _
  obtain ⟨hrequests, hevents, hview, -, -, -, hrefused⟩ := quiet_after_shutdown 1 actions more
  obtain ⟨hrefusal, -⟩ := hrefused hphase (op 3) hkeys
  have hasked : requestTimes g.log = [1] := by rw [hrequests]; decide +kernel
  have htold : g.events = [] := by rw [hevents]; decide +kernel
  have htracked : g.tracker.view.tracked = [1] := by rw [hview]; decide +kernel
  exact ⟨by decide +kernel, by decide +kernel, hphase, by decide +kernel, hasked, htold, htracked,
    hkeys, hrefusal⟩

end TrackerCourse

end MediaMonitor
