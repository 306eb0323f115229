import MediaMonitor.Proofs.Deletion.Coherence
import MediaMonitor.Proofs.Distinct

/-!
# Moves of a coordinator

In a coherent state every action makes one of seven moves (`Move`, `move_news`), which also say what
becomes known of the runs by it (`News`): which run got started, what progress a run applied, how a
run ended.  Each move leads to a coherent state again (`Move.coherent`).
-/

namespace MediaMonitor

/-- A run that got started. -/
structure StartedRun where
  number : Nat
  ruleId : Int64
  /-- The ids as they were given. -/
  ids : List Int64

/-- How a run ended. -/
inductive RunEnd where
  | returned (r : RunResult)
  /-- It was dropped while it waited. -/
  | dropped

/-- What an action brings about, and what it says of the runs. -/
structure News where
  state : Coordinator
  events : List Event := []
  /-- The request that was made: its run, the rule and the ids. -/
  submitted : Option (Nat × Int64 × List Int64) := none
  started : Option StartedRun := none
  /-- The run that applied a progress, and the progress. -/
  told : Option (Nat × DeleteProgress) := none
  ended : Option (Nat × RunEnd) := none

/-- What an effect says. -/
def News.ofEffect (effect : CoordinatorEffect) : News where
  state := effect.state
  events := effect.events
  submitted := effect.requested
  ended := effect.returned.map (fun r => (r.1, .returned r.2))

namespace Coordinator

/-- The progress a run applies with its next frame. -/
def nextProgress? (c : Coordinator) (n : Nat) : Option (Nat × DeleteProgress) :=
  (c.run? n).bind fun run =>
    match run.phase with
    | .reading r => (r.applyNext run.cancelled).1.map (fun p => (n, p))
    | _ => none

/-- A run in flight is gone. -/
def lost? (before after : Coordinator) (n : Nat) : Option (Nat × RunEnd) :=
  if (before.run? n).isSome ∧ (after.run? n).isNone then some (n, .dropped) else none

/-- What an action brings about. -/
def news (c : Coordinator) (a : CoordinatorAction) : News :=
  let effect := c.step a
  let news := News.ofEffect effect
  match a with
  | .start ruleId ids =>
      { news with started := effect.requested.map (fun q => ⟨q.1, ruleId, ids⟩) }
  | .frame n => { news with told := c.nextProgress? n }
  | .drop n => { news with ended := news.ended.or (c.lost? effect.state n) }
  | _ => news

/-- What becomes known is of no consequence to the state. -/
theorem news_state (c : Coordinator) (a : CoordinatorAction) :
    (c.news a).state = (c.step a).state := by
  cases a <;> rfl

end Coordinator

/-! ### Distinct ids -/

namespace Coordinator

/-- The ids of a request are those given, each once, where it came first. -/
theorem distinct_eq (ids : List Int64) : distinct ids = ids.eraseDups := by
  have hmap := map_distinctBy_nil id ids
  rwa [List.map_id, List.map_id] at hmap

theorem length_eraseDups_le (ids : List Int64) : ids.eraseDups.length ≤ ids.length := by
  rw [← distinct_eq]
  exact (distinctBy_sublist id [] ids).length_le

theorem distinct_eq_nil {ids : List Int64} : distinct ids = [] ↔ ids = [] := by
  rw [distinct_eq]
  cases ids with
  | nil => exact ⟨fun _ => rfl, fun _ => rfl⟩
  | cons id rest => rw [List.eraseDups_cons]; exact ⟨nofun, nofun⟩

end Coordinator

/-! ### Reads that are not cancelled -/

namespace Reading

/-- A read that has stopped was not cancelled. -/
def Uncancelled (r : Reading) : Prop := r.stopped = true → r.report.stop ≠ .cancelled

section
variable {r : Reading}

theorem uncancelled_of_open (h : r.stopped = false) : r.Uncancelled :=
  fun hs => absurd (h.symm.trans hs) (by decide)

theorem uncancelled_halt {stop : StreamEnd} (h : stop ≠ .cancelled) : (r.halt stop).Uncancelled :=
  fun _ => h

theorem uncancelled_settle (h : r.Uncancelled) : r.settle.Uncancelled := by
  rw [settle]
  split
  · exact uncancelled_halt nofun
  · exact h

theorem uncancelled_deliver (h : r.stopped = false) (item : BodyItem) :
    (r.deliver item).Uncancelled := by
  cases item with
  | ok bs => exact uncancelled_of_open h
  | error e => exact uncancelled_halt nofun

theorem uncancelled_close (h : r.stopped = false) : r.close.Uncancelled := by
  rw [close]
  dsimp only
  split
  · exact uncancelled_halt nofun
  · exact uncancelled_of_open h

theorem uncancelled_applyNext (h : r.stopped = false) : (r.applyNext false).2.Uncancelled := by
  rw [applyNext]
  split
  · exact uncancelled_of_open h
  · rw [if_neg (by decide)]
    rw [applyFrame]
    split
    · exact uncancelled_settle (uncancelled_of_open h)
    · exact uncancelled_halt nofun
    · exact uncancelled_halt nofun
    · exact uncancelled_settle (uncancelled_of_open h)

theorem applyNext_cancelled (h : r.pending ≠ []) :
    r.applyNext true = (none, r.halt .cancelled) := by
  rw [applyNext]
  split
  · contradiction
  · rfl

end

end Reading

/-- The phase a run comes to by a step of its read. -/
def DeletionRun.afterRead (run : DeletionRun) (r : Reading) : RunPhase :=
  if r.stopped then .concluding (Coordinator.outcomeOf run.requested r.report) else .reading r

namespace Coordinator
section
variable {c : Coordinator} {run : DeletionRun} {r : Reading} {a : CoordinatorAction}

theorem live_afterRead : (run.afterRead r).Live := by
  rw [DeletionRun.afterRead]
  split
  · trivial
  · rename_i h; exact (Bool.not_eq_true _).mp h

theorem afterRead_uncancelled (h : r.Uncancelled) (events : List Event) :
    c.afterRead run r events =
      { state := c.turn run.number (run.afterRead r), events := events } := by
  rw [afterRead, DeletionRun.afterRead]
  split
  · rename_i hs; rw [if_neg (h hs)]; rfl
  · rfl

theorem afterRead_cancelled (c : Coordinator) (run : DeletionRun) (r : Reading) :
    c.afterRead run (r.halt .cancelled) [] = c.abort run true := by
  simp [afterRead, Reading.halt, abort]

theorem Coherent.abort_eq (hc : c.Coherent) (returns : Bool) :
    c.abort run returns =
      { state := c.retire run.number
        events := [.deletion (.aborted run.id)]
        returned := if returns then some (run.number, .error .cancelled) else none } := by
  rw [abort, hc.release_eq]

/-! ### Moves -/

/-- What can come of an action in a coherent state. -/
inductive Move (c : Coordinator) : CoordinatorAction → News → Prop where
  | still {a : CoordinatorAction} : Move c a { state := c }
  | start {ruleId : Int64} {ids : List Int64} {run : DeletionRun} (h : distinct ids ≠ [])
      (hr : run =
        { number := c.generation + 1, ruleId := ruleId
          requested := .ofNat (distinct ids).length }) :
      Move c (.start ruleId ids)
        { state := c.launch run
          events := [.deletion (.started run.id ruleId run.requested)]
          submitted := some (run.number, ruleId, distinct ids)
          started := some ⟨run.number, ruleId, ids⟩ }
  | cancel : Move c .cancel { state := c.allCancelled }
  /-- A run comes to another phase. -/
  | turn {a : CoordinatorAction} {run : DeletionRun} {phase : RunPhase} (hr : run ∈ c.runs)
      (hs : subject? a = some run.number) (hp : phase.Live) :
      Move c a { state := c.turn run.number phase }
  /-- The latest run tells of progress. -/
  | tell {run : DeletionRun} {p : DeleteProgress} {phase : RunPhase} (hr : run ∈ c.runs)
      (hu : run.cancelled = false) (hp : phase.Live) :
      Move c (.frame run.number)
        { state := { c.turn run.number phase with progress := some p }
          events := [.deletion (.progress run.id p)]
          told := some (run.number, p) }
  /-- The latest run returns an outcome. -/
  | finish {run : DeletionRun} {o : DeleteOutcome} (hr : run ∈ c.runs)
      (hu : run.cancelled = false) :
      Move c (.conclude run.number)
        { state := { c.retire run.number with lastOutcome := some o }
          events := finishEvents run o
          ended := some (run.number, .returned (.ok o)) }
  /-- A run ends without an outcome. -/
  | abort {a : CoordinatorAction} {run : DeletionRun} {e : RunEnd} (hr : run ∈ c.runs)
      (hs : subject? a = some run.number)
      (he : e = .returned (.error .cancelled) ∧ run.cancelled = true ∨ e = .dropped) :
      Move c a
        { state := c.retire run.number
          events := [.deletion (.aborted run.id)]
          ended := some (run.number, e) }

theorem Coherent.start_eq (hc : c.Coherent) (ruleId : Int64) {ids : List Int64}
    (h : distinct ids ≠ []) :
    c.start ruleId ids =
      let run : DeletionRun :=
        { number := c.generation + 1, ruleId := ruleId, requested := .ofNat (distinct ids).length }
      { state := c.launch run
        events := [.deletion (.started run.id ruleId run.requested)]
        requested := some (run.number, ruleId, distinct ids) } := by
  rw [start]
  split
  · contradiction
  · rw [hc.cancelActive_eq]; rfl

theorem start_nil (c : Coordinator) (ruleId : Int64) {ids : List Int64} (h : distinct ids = []) :
    c.start ruleId ids =
      { state := c
        rejected := some (.validation "Select at least one candidate to delete") } := by
  rw [start, h]

theorem move_start (hc : c.Coherent) (ruleId : Int64) (ids : List Int64) :
    Move c (.start ruleId ids) (c.news (.start ruleId ids)) := by
  by_cases h : distinct ids = []
  · rw [news, step, start_nil c ruleId h]; exact .still
  · rw [news, step, hc.start_eq ruleId h]; exact .start h rfl

theorem step_absent {n : Nat} (hs : subject? a = some n) (hn : c.run? n = none) :
    c.step a = { state := c } := by
  cases a <;> cases hs <;> simp [step, subject?, hn]

theorem Coherent.step_eq (hc : c.Coherent) (hr : run ∈ c.runs)
    (hs : subject? a = some run.number) : c.step a = c.stepRun run a := by
  cases a <;> cases hs <;> simp [step, subject?, hc.run?_eq hr]

/-- A run that notices its cancellation ends. -/
theorem move_abort (hc : c.Coherent) (hr : run ∈ c.runs) (hs : subject? a = some run.number)
    (hu : run.cancelled = true) : Move c a (.ofEffect (c.abort run true)) := by
  rw [hc.abort_eq]; exact .abort hr hs (.inl ⟨rfl, hu⟩)

theorem move_afterRead (hr : run ∈ c.runs) (hs : subject? a = some run.number)
    (h : r.Uncancelled) : Move c a (.ofEffect (c.afterRead run r [])) := by
  rw [afterRead_uncancelled h]; exact .turn hr hs live_afterRead

section
variable (hc : c.Coherent) (hr : run ∈ c.runs)
include hc hr

/-- A run that waits takes what comes, unless it was cancelled by then. -/
theorem move_taken {q : Reading} (hs : subject? a = some run.number) (hq : q.Uncancelled) :
    Move c a (.ofEffect (if !r.isWaiting then { state := c }
      else if run.cancelled then c.abort run true
      else c.afterRead run q [])) := by
  split
  · exact .still
  · split
    · rename_i hu; exact move_abort hc hr hs hu
    · exact move_afterRead hr hs hq

theorem move_reply (answer : Except MaintenanceError Unit) :
    Move c (.reply run.number answer) (.ofEffect (c.stepRun run (.reply run.number answer))) := by
  simp only [stepRun]
  split
  · simp only [reply]
    split
    · rename_i hu; exact move_abort hc hr rfl hu
    · cases answer with
      | error e => exact .turn hr rfl trivial
      | ok u => exact move_afterRead hr rfl (Reading.uncancelled_of_open rfl)
  · exact .still

theorem move_item (item : BodyItem) :
    Move c (.item run.number item) (.ofEffect (c.stepRun run (.item run.number item))) := by
  simp only [stepRun]
  split
  · rename_i r hp
    exact move_taken hc hr rfl (Reading.uncancelled_deliver (hc.open_of_reading hr hp) item)
  · exact .still

theorem move_close :
    Move c (.close run.number) (.ofEffect (c.stepRun run (.close run.number))) := by
  simp only [stepRun]
  split
  · rename_i r hp
    exact move_taken hc hr rfl (Reading.uncancelled_close (hc.open_of_reading hr hp))
  · exact .still

theorem move_conclude :
    Move c (.conclude run.number) (.ofEffect (c.stepRun run (.conclude run.number))) := by
  simp only [stepRun]
  split
  · rename_i o hp
    rw [conclude]
    split
    · -- the slot is the run's own, so to free it is to retire the run
      rename_i h
      have hu : run.cancelled = false := by simpa using h.2
      have hstate : { c.remove run.number with active := none, lastOutcome := some o } =
          { c.retire run.number with lastOutcome := some o } := by
        rw [← hc.retire_active hr hu]; rfl
      rw [hstate]
      exact .finish hr hu
    · -- a run that is not the latest one was cancelled
      rename_i h
      refine move_abort hc hr rfl ?_
      by_contra hu
      have hu : run.cancelled = false := by simpa using hu
      exact h ⟨(hc.latest hr hu).symm, by simp [hu]⟩
  · exact .still

theorem move_notice :
    Move c (.notice run.number) (.ofEffect (c.stepRun run (.notice run.number))) := by
  simp only [stepRun]
  split
  · exact .still
  · rename_i h
    have hu : run.cancelled = true := by simpa using h
    split
    · exact move_abort hc hr rfl hu
    · split
      · exact move_abort hc hr rfl hu
      · exact .still
    · exact .still

/-- A run deals with a frame: a cancelled one ends, and one that is not may tell of progress. -/
theorem move_frame : Move c (.frame run.number) (c.news (.frame run.number)) := by
  have hstep : c.step (.frame run.number) = c.stepRun run (.frame run.number) :=
    hc.step_eq hr rfl
  rw [news, nextProgress?]
  simp only [hstep, hc.run?_eq hr, stepRun, Option.bind_some]
  cases hp : run.phase with
  | requesting => exact .still
  | concluding o => exact .still
  | reading r =>
      have hl := hc.open_of_reading hr hp
      dsimp only
      by_cases hpend : r.pending = []
      · rw [if_pos hpend]
        have hnext : r.applyNext run.cancelled = (none, r) := by rw [Reading.applyNext, hpend]
        rw [hnext]
        exact .still
      · rw [if_neg hpend, frame]
        cases hu : run.cancelled with
        | true =>
            -- the read stops as cancelled, and the run ends with it
            rw [Reading.applyNext_cancelled hpend]
            dsimp only
            rw [afterRead_cancelled]
            exact move_abort hc hr rfl hu
        | false =>
            have hq := Reading.uncancelled_applyNext hl
            rcases hnext : r.applyNext false with ⟨_ | p, q⟩
            · rw [hnext] at hq
              exact move_afterRead hr rfl hq
            · rw [hnext] at hq
              dsimp only
              rw [if_pos (hc.latest hr hu).symm, afterRead_uncancelled hq]
              exact .tell hr hu live_afterRead

/-- A run that is dropped while it waits is gone. -/
theorem move_drop : Move c (.drop run.number) (c.news (.drop run.number)) := by
  have hstep : c.step (.drop run.number) = c.stepRun run (.drop run.number) :=
    hc.step_eq hr rfl
  have hgone : c.lost? (c.retire run.number) run.number = some (run.number, .dropped) := by
    have hnone : (c.retire run.number).run? run.number = none := by
      simp [run?, retire, remove]
    rw [lost?, hc.run?_eq hr, hnone]
    rfl
  have hstill : c.lost? c run.number = none := by
    rw [lost?, hc.run?_eq hr]; rfl
  have hdrop : Move c (.drop run.number) { News.ofEffect (c.abort run false) with
      ended := (News.ofEffect (c.abort run false)).ended.or
        (c.lost? (c.abort run false).state run.number) } := by
    rw [hc.abort_eq]
    dsimp only
    rw [hgone]
    exact .abort hr rfl (.inr rfl)
  rw [news]
  simp only [hstep, stepRun]
  cases run.phase with
  | requesting => exact hdrop
  | concluding o => simp only [hstill]; exact .still
  | reading r =>
      dsimp only
      split
      · exact hdrop
      · rw [hstill]; exact .still

end

theorem move_of_step {effect : CoordinatorEffect} (h : c.step a = effect)
    (hm : Move c a (.ofEffect effect)) : Move c a (.ofEffect (c.step a)) :=
  h ▸ hm

/-- An action on a run that is not in flight has no effect. -/
theorem move_absent {n : Nat} (hs : subject? a = some n) (hn : c.run? n = none) :
    Move c a (c.news a) := by
  have h : c.news a = { state := c } := by
    simp only [news]
    rw [step_absent hs hn]
    cases a <;> cases hs <;> simp [News.ofEffect, nextProgress?, lost?, hn]
  rw [h]
  exact .still

/-- **In a coherent state every action makes one of the moves.** -/
theorem move_news (hc : c.Coherent) (a : CoordinatorAction) : Move c a (c.news a) := by
  cases hs : subject? a with
  | none =>
      cases a with
      | start ruleId ids => exact move_start hc ruleId ids
      | cancel =>
          have hstep : c.step .cancel = { state := c.allCancelled } :=
            congrArg (CoordinatorEffect.mk · [] none none none) hc.cancelActive_eq
          exact move_of_step hstep .cancel
      | _ => cases hs
  | some n =>
      cases hn : c.run? n with
      | none => exact move_absent hs hn
      | some run =>
          obtain ⟨hr, rfl⟩ := mem_of_run? hn
          have hstep := hc.step_eq hr hs
          cases a with
          | start | cancel => cases hs
          | reply _ answer => cases hs; exact move_of_step hstep (move_reply hc hr answer)
          | item _ item => cases hs; exact move_of_step hstep (move_item hc hr item)
          | close => cases hs; exact move_of_step hstep (move_close hc hr)
          | conclude => cases hs; exact move_of_step hstep (move_conclude hc hr)
          | notice => cases hs; exact move_of_step hstep (move_notice hc hr)
          | frame => cases hs; exact move_frame hc hr
          | drop => cases hs; exact move_drop hc hr

/-- **A move leads to a coherent state.** -/
theorem Move.coherent {news : News} (hm : Move c a news) (hc : c.Coherent) :
    news.state.Coherent := by
  cases hm with
  | still => exact hc
  | start _ hr => subst hr; exact hc.launch rfl rfl trivial
  | cancel => exact hc.allCancelled
  | turn _ _ hp => exact hc.turn hp
  | tell _ _ hp => exact (hc.turn hp).congr rfl rfl rfl
  | finish => exact (hc.retire _).congr rfl rfl rfl
  | abort => exact hc.retire _

/-! ### What moves do to the runs -/

section
variable {news : News} {n : Nat}

theorem Move.generation_le (hm : Move c a news) : c.generation ≤ news.state.generation := by
  cases hm with
  | start _ hr => rw [hr]; exact Nat.le_succ _
  | _ => exact Nat.le_refl _

/-- The run that gets started has the next number. -/
theorem Move.started_number (hm : Move c a news) {s : StartedRun} (hs : news.started = some s) :
    s.number = c.generation + 1 := by
  cases hm with
  | start _ hr => cases hs; rw [hr]
  | _ => cases hs

/-- A run in flight was so before, or it is the next one. -/
theorem Move.inFlight (hm : Move c a news) (h : news.state.InFlight n) :
    c.InFlight n ∨ n = c.generation + 1 := by
  cases hm with
  | still => exact .inl h
  | start _ hr =>
      rcases inFlight_launch.mp h with h | h
      · exact .inl h
      · rw [hr] at h; exact .inr h
  | cancel => exact .inl (inFlight_allCancelled.mp h)
  | turn | tell => exact .inl (inFlight_turn.mp h)
  | finish | abort => exact .inl (inFlight_retire.mp h).1

/-- A run that was cancelled stays so. -/
theorem Move.cancelled (hm : Move c a news) {x : DeletionRun} (hx : x ∈ news.state.runs)
    (hle : x.number ≤ c.generation) (h : ∀ y ∈ c.runs, y.number = x.number → y.cancelled = true) :
    x.cancelled = true := by
  cases hm with
  | still => exact h x hx rfl
  | start _ hr =>
      rcases mem_launch.mp hx with hx | rfl
      · obtain ⟨y, -, rfl⟩ := mem_allCancelled.mp hx; rfl
      · rw [hr] at hle; exact absurd hle (Nat.not_succ_le_self _)
  | cancel => obtain ⟨y, -, rfl⟩ := mem_allCancelled.mp hx; rfl
  | turn | tell =>
      obtain ⟨y, hy, hn, -, hu, -⟩ := exists_of_mem_turn hx
      exact hu ▸ h y hy hn
  | finish | abort => exact h x (mem_retire.mp hx).1 rfl

/-- A run that returns an outcome was not cancelled. -/
theorem Move.uncancelled_of_returned (hm : Move c a news) {o : DeleteOutcome}
    (he : news.ended = some (n, .returned (.ok o))) :
    ∃ run ∈ c.runs, run.number = n ∧ run.cancelled = false := by
  cases hm with
  | finish hr hu => cases he; exact ⟨_, hr, rfl, hu⟩
  | abort _ _ hwhy => cases he; rcases hwhy with ⟨h, -⟩ | h <;> cases h
  | _ => cases he

end

end
end Coordinator

end MediaMonitor
