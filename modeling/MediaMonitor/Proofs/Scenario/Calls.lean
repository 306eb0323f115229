import Mathlib.Data.List.Basic
import Mathlib.Logic.Function.Basic
import MediaMonitor.Proofs.Http.Requests
import MediaMonitor.Proofs.Procedure
import MediaMonitor.Proofs.Sync.Launch
import MediaMonitor.Scenario.Service

/-!
# The calls of a monitor in virtual time

What the backend of a monitor becomes tells which calls it was asked: `World.Makes` names those of
them that change something.  The coordinator asks for nothing once a run is started, and the tracker
only for the status of the syncs, so nothing is changed while time passes
(`World.makes_advanceTo`), while a run is waited for (`World.makes_await`), or by an answer that
comes late.
-/

namespace MediaMonitor.Scenario

/-- The backend after calls made one after another. -/
def Answers.after {β : Type} [Answers β] (calls : List BackendCall) (backend : β) : β :=
  calls.foldl (fun s c => (Answers.ask s c).2) backend

namespace World

variable {β : Type}

/-! ### Runs -/

theorem backend_act (w : World β) (action : CoordinatorAction) :
    (w.act action).2.backend = w.backend := rfl

theorem backend_drain (n fuel : Nat) (w : World β) : (w.drain n fuel).backend = w.backend := by
  induction fuel generalizing w with
  | zero => rfl
  | succ fuel ih =>
      rw [drain]
      split
      · split
        · rfl
        · rw [ih, backend_act]
      · rw [backend_act]
      · rfl

theorem backend_actAndDrain (w : World β) (n : Nat) (action : CoordinatorAction) :
    (w.actAndDrain n action).backend = w.backend := by
  rw [actAndDrain, backend_drain, backend_act]

theorem backend_setWait (w : World β) (n : Nat) (wait : Option RunWait) :
    (w.setWait n wait).backend = w.backend := rfl

theorem backend_pump (n fuel : Nat) (w : World β) : (w.pump n fuel).backend = w.backend := by
  induction fuel generalizing w with
  | zero => rfl
  | succ fuel ih =>
      rw [pump]
      split
      · rfl
      · split_ifs
        · exact backend_setWait ..
        · rfl
        · split
          · rw [backend_actAndDrain, backend_setWait]
          · rw [ih, backend_actAndDrain, backend_setWait]
          · rw [backend_actAndDrain, backend_setWait]
          · split
            · rfl
            · rw [ih, backend_actAndDrain, backend_setWait]

theorem backend_pumpRun (w : World β) (n : Nat) : (w.pumpRun n).backend = w.backend := by
  rw [pumpRun]
  split
  · exact backend_pump ..
  · rfl

theorem backend_foldl_pumpRun (waits : List (Nat × RunWait)) (w : World β) :
    (waits.foldl (fun w x => w.pumpRun x.1) w).backend = w.backend := by
  induction waits generalizing w with
  | nil => rfl
  | cons x rest ih => rw [List.foldl_cons, ih, backend_pumpRun]

theorem backend_noticeAll (w : World β) : w.noticeAll.backend = w.backend := by
  rw [noticeAll]
  generalize w.coordinator.runs.filter (·.cancelled) = runs
  induction runs generalizing w with
  | nil => rfl
  | cons run rest ih => rw [List.foldl_cons, ih, backend_setWait, backend_act]

/-! ### Changes -/

variable [Answers β] {w w' w'' : World β} {changes changes' : List BackendCall}

/-- The monitor went on from `w` to `w'`, and the calls that change something were these. -/
def Makes (w w' : World β) (changes : List BackendCall) : Prop :=
  ∃ calls, w'.backend = Answers.after calls w.backend ∧ calls.filter (·.isChange) = changes

theorem makes_of_backend_eq (h : w'.backend = w.backend) : Makes w w' [] := ⟨[], h, rfl⟩

theorem Makes.trans (h : Makes w w' changes) (h' : Makes w' w'' changes') :
    Makes w w'' (changes ++ changes') := by
  obtain ⟨calls, hcalls, hchanges⟩ := h
  obtain ⟨calls', hcalls', hchanges'⟩ := h'
  exact ⟨calls ++ calls', by rw [hcalls', hcalls]; exact List.foldl_append.symm,
    by rw [List.filter_append, hchanges, hchanges']⟩

/-- Nothing is changed any more. -/
theorem Makes.quiet (h : Makes w w' changes) (h' : Makes w' w'' []) : Makes w w'' changes := by
  have hall := h.trans h'
  rwa [List.append_nil] at hall

theorem makes_ask (w : World β) (c : BackendCall) :
    Makes w (w.ask c).2 ([c].filter (·.isChange)) :=
  ⟨[c], rfl, rfl⟩

/-! ### Time -/

/-- The tracker asks for the status only. -/
theorem makes_pumpTracker (fuel : Nat) (w : World β) : Makes w (w.pumpTracker fuel) [] := by
  induction fuel generalizing w with
  | zero => exact makes_of_backend_eq rfl
  | succ fuel ih =>
      rw [pumpTracker]
      split
      · exact (makes_ask w .syncStatus).trans (ih _)
      · exact ih _
      · split
        · split_ifs
          · exact ih _
          · exact makes_of_backend_eq rfl
        · exact makes_of_backend_eq rfl

theorem makes_settle (w : World β) : Makes w w.settle [] := by
  refine (makes_pumpTracker (2 * w.tracker.queue.length + 8) w).trans (makes_of_backend_eq ?_)
  exact (backend_noticeAll _).trans (backend_foldl_pumpRun _ _)

theorem makes_advanceWithin (time fuel : Nat) (w : World β) :
    Makes w (w.advanceWithin time fuel) [] := by
  induction fuel generalizing w with
  | zero => exact makes_settle { w with now := max w.now time }
  | succ fuel ih =>
      rw [advanceWithin]
      split
      · rename_i t _
        exact (makes_settle { w with now := t }).trans (ih _)
      · exact makes_settle { w with now := max w.now time }

theorem makes_advanceTo (w : World β) (time : Nat) : Makes w (w.advanceTo time) [] :=
  (makes_settle w).trans (makes_advanceWithin ..)

theorem makes_advance (w : World β) (delay : Nat) : Makes w (w.advance delay) [] :=
  makes_advanceTo ..

theorem makes_interrupt (w : World β) (n : Nat) (i : Interruption) :
    Makes w (w.interrupt n i) [] := by
  cases i with
  | drop t =>
      have hdrop : Makes (w.advanceTo t) (((w.advanceTo t).act (.drop n)).2.setWait n none) [] :=
        makes_of_backend_eq rfl
      exact ((makes_advanceTo w t).trans hdrop).trans (makes_settle _)
  | cancel t =>
      have hcancel : Makes (w.advanceTo t) ((w.advanceTo t).act .cancel).2 [] :=
        makes_of_backend_eq rfl
      exact ((makes_advanceTo w t).trans hcancel).trans (makes_settle _)

theorem makes_awaitWithin (n : Nat) (interruption : Option Interruption) (fuel : Nat)
    (w : World β) : Makes w (w.awaitWithin n interruption fuel) [] := by
  induction fuel generalizing w with
  | zero => exact makes_of_backend_eq rfl
  | succ fuel ih =>
      rw [awaitWithin]
      split
      · exact makes_of_backend_eq rfl
      · extract_lets reached
        clear_value reached
        split
        · exact (makes_advanceTo ..).trans (ih _)
        · exact makes_interrupt ..
        · exact makes_of_backend_eq rfl

theorem makes_await (w : World β) (n : Nat) (interruption : Option Interruption) :
    Makes w (w.await n interruption) [] := by
  rw [await]
  split
  · exact (makes_settle w).trans (makes_awaitWithin ..)
  · exact makes_settle w

/-! ### Procedures -/

/-- A procedure runs against the replies that come to it, and nothing is changed but by its own
calls. -/
theorem exists_perform (p : Procedure α) (w : World β) :
    ∃ replies, let trace := (p.run Procedure.scripted replies).1
      (w.perform p).1 = trace.result ∧
        Makes w (w.perform p).2 (trace.calls.filter (·.isChange)) := by
  induction p generalizing w with
  | done a => exact ⟨[], rfl, makes_of_backend_eq rfl⟩
  | tell e next ih =>
      obtain ⟨replies, hresult, hmakes⟩ := ih (w.emit [e])
      have hemit : Makes w (w.emit [e]) [] := makes_of_backend_eq rfl
      exact ⟨replies, hresult, hemit.trans hmakes⟩
  | ask c next ih =>
      obtain ⟨outcome, houtcome⟩ : ∃ outcome, w.perform (.ask c next) =
          ((w.ask c).2.advance ((w.ask c).1.delay.getD 0)).perform (next outcome) := ⟨_, rfl⟩
      obtain ⟨replies, hresult, hmakes⟩ := ih outcome
        ((w.ask c).2.advance ((w.ask c).1.delay.getD 0))
      refine ⟨Procedure.replyTo c outcome :: replies, ?_⟩
      simp only [Procedure.run, Procedure.scripted, Procedure.replyTo_self, houtcome]
      have hall := ((makes_ask w c).quiet (makes_advance ..)).trans hmakes
      rw [← List.filter_append] at hall
      exact ⟨hresult, hall⟩

/-! ### Launches -/

/-- Makes a call of a launch: the launch, the delay of the slowest reply, the number of calls, and
the monitor after it. -/
def askNext : Launch × Nat × Nat × World β → SyncKey → Launch × Nat × Nat × World β :=
  fun (l, longest, n, w) key =>
    let (reply, w) := World.ask w (.startSync key)
    (l.answer n reply.value, max longest (reply.delay.getD 0), n + 1, w)

/-- The calls of a launch are made one after another, and each is answered. -/
theorem exists_foldl_askNext {l : Launch} (hnodup : l.calls.Nodup) (before keys : List SyncKey)
    (hcalls : l.calls = before ++ keys) (longest : Nat) (w : World β) :
    ∃ reply longest' n w', keys.foldl askNext (l, longest, before.length, w) =
        (l.answerAll reply keys, longest', n, w') ∧ Makes w w' (keys.map .startSync) := by
  induction keys generalizing l before longest w with
  | nil => exact ⟨fun _ => .error .cancelled, longest, _, w, rfl, makes_of_backend_eq rfl⟩
  | cons k rest ih =>
      have hsplit : (before ++ k :: rest).Nodup := hcalls ▸ hnodup
      obtain ⟨-, hkeys, hdisjoint⟩ := List.nodup_append.mp hsplit
      have hbefore : k ∉ before := fun h => hdisjoint k h k List.mem_cons_self rfl
      have hrest : k ∉ rest := (List.nodup_cons.mp hkeys).1
      have hidx : l.calls.idxOf k = before.length := by
        rw [hcalls, List.idxOf_append_of_notMem hbefore, List.idxOf_cons_self, Nat.add_zero]
      let answer := (w.ask (.startSync k)).1.value
      have hanswered : (l.answer before.length answer).calls = l.calls := Launch.calls_answer ..
      obtain ⟨reply, longest', n, w', hfold, hmakes⟩ := ih (hanswered ▸ hnodup) (before ++ [k])
        (by rw [hanswered, hcalls, List.append_assoc, List.singleton_append])
        (max longest ((w.ask (.startSync k)).1.delay.getD 0)) (w.ask (.startSync k)).2
      rw [List.length_append, List.length_singleton] at hfold
      refine ⟨Function.update reply k answer, longest', n, w', ?_,
        (makes_ask w (.startSync k)).trans hmakes⟩
      -- the key is none of those that follow, so their replies are as they were
      have hsame : ∀ i ∈ rest, Function.update reply k answer i = reply i :=
        fun i hi => Function.update_of_ne (ne_of_mem_of_not_mem hi hrest) _ _
      rw [List.foldl_cons, Launch.answerAll, List.foldl_cons, hidx, Function.update_self,
        ← Launch.answerAll, Launch.answerAll_congr hsame]
      exact hfold

theorem launch_eq (w : World β) (rule : Rule) :
    w.launch rule = match Launch.start rule with
      | .error e => (.error e, w)
      | .ok launch =>
          let asked := launch.calls.foldl askNext (launch, 0, 0, w)
          let w := asked.2.2.2.advance asked.2.1
          match asked.1.conclude? with
          | some (result, events) => (result, w.emit events)
          | none => (.error .cancelled, w) := rfl

/-- A launch runs against the replies that come, and its calls are for the keys of the rule. -/
theorem exists_launch (w : World β) (rule : Rule) :
    ∃ reply trace, Launch.run rule reply rule.syncKeys = some trace ∧
      (w.launch rule).1 = trace.result ∧
      Makes w (w.launch rule).2 (rule.syncKeys.map .startSync) := by
  rw [launch_eq, Launch.start_eq]
  by_cases hempty : rule.libraries = []
  · refine ⟨fun _ => .error .cancelled, _,
      by rw [Launch.run, Launch.start_eq, if_pos hempty], ?_⟩
    rw [if_pos hempty, Rule.syncKeys_eq_nil.mpr hempty]
    exact ⟨rfl, makes_of_backend_eq rfl⟩
  · have hcalls := Launch.calls_unanswered rule
    obtain ⟨reply, longest, n, w', hfold, hmakes⟩ := exists_foldl_askNext
      (hcalls ▸ rule.nodup_syncKeys) [] rule.syncKeys hcalls 0 w
    obtain ⟨c, hconclude⟩ : ∃ c,
        ((Launch.unanswered rule).answerAll reply rule.syncKeys).conclude? = some c :=
      ⟨_, Launch.conclude?_unanswered (fun _ hk => hk)⟩
    refine ⟨reply, { result := c.1, calls := rule.syncKeys.map .startSync, events := c.2 },
      by rw [Launch.run, Launch.start_eq, if_neg hempty]; dsimp only; rw [hconclude, hcalls]; rfl,
      ?_⟩
    rw [List.length_nil] at hfold
    have hemit : Makes (w'.advance longest) ((w'.advance longest).emit c.2) [] :=
      makes_of_backend_eq rfl
    rw [if_neg hempty]
    dsimp only
    rw [hcalls, hfold]
    dsimp only
    rw [hconclude]
    exact ⟨rfl, (hmakes.quiet (makes_advance w' longest)).quiet hemit⟩

end World

end MediaMonitor.Scenario
