import MediaMonitor.Proofs.Deletion.Course
import MediaMonitor.Proofs.Deletion.Verdict

/-!
# A run that is left alone

A run that is neither cancelled nor superseded nor dropped makes one request, of the distinct ids,
and returns the verdict on its reply, whatever other runs do in between (`Course.run_left_alone`).
-/

namespace MediaMonitor

/-! ### How a run advances -/

namespace Reading

/-- A read that has stopped has no frames left. -/
def Tidy (r : Reading) : Prop := r.stopped = true → r.pending = []

section
variable {r : Reading}

theorem tidy_of_open (h : r.stopped = false) : r.Tidy :=
  fun hs => absurd (h.symm.trans hs) (by decide)

theorem tidy_halt (r : Reading) (stop : StreamEnd) : (r.halt stop).Tidy := fun _ => rfl

theorem tidy_settle (h : r.Tidy) : r.settle.Tidy := by
  rw [settle]
  split
  · exact tidy_halt _ _
  · exact h

theorem tidy_deliver (h : r.stopped = false) (item : BodyItem) : (r.deliver item).Tidy := by
  cases item with
  | ok bs => exact tidy_of_open h
  | error e => exact tidy_halt _ _

theorem tidy_close (h : r.stopped = false) : r.close.Tidy := by
  rw [close_eq]
  dsimp only
  split
  · exact tidy_halt _ _
  · exact tidy_of_open h

theorem tidy_applyNext (h : r.Tidy) : (r.applyNext false).2.Tidy := by
  rw [applyNext]
  split
  · exact h
  · rename_i frame rest hp
    have hopen : r.stopped = false := by
      by_contra hs
      rw [h (by simpa using hs)] at hp
      cases hp
    rw [if_neg (by decide)]
    rw [applyFrame]
    split
    · exact tidy_settle (tidy_of_open hopen)
    · exact tidy_halt _ _
    · exact tidy_halt _ _
    · exact tidy_settle (tidy_of_open hopen)

end

end Reading

namespace DeletionRun

/-- The phase that an action brings a run to that is not cancelled. -/
def advance (run : DeletionRun) : CoordinatorAction → RunPhase
  | .reply _ answer =>
      match run.phase, answer with
      | .requesting, .ok () => run.afterRead {}
      | .requesting, .error e => .concluding (.transportFailure run.requested e.message)
      | phase, _ => phase
  | .item _ item =>
      match run.phase with
      | .reading r => if r.isWaiting then run.afterRead (r.deliver item) else .reading r
      | phase => phase
  | .close _ =>
      match run.phase with
      | .reading r => if r.isWaiting then run.afterRead r.close else .reading r
      | phase => phase
  | .frame _ =>
      match run.phase with
      | .reading r => if r.pending = [] then .reading r else run.afterRead (r.applyNext false).2
      | phase => phase
  | _ => run.phase

/-- The run after actions that bring it forward. -/
def advanced (run : DeletionRun) (actions : List CoordinatorAction) : DeletionRun :=
  actions.foldl (fun run a => { run with phase := run.advance a }) run

end DeletionRun

/-- The action brings a run forward. -/
def CoordinatorAction.Forwards (n : Nat) : CoordinatorAction → Prop
  | .reply m _ | .item m _ | .close m | .frame m => m = n
  | _ => False

namespace Coordinator
section
variable {c : Coordinator} {run : DeletionRun} {a : CoordinatorAction}

theorem mem_turn_self (hr : run ∈ c.runs) (phase : RunPhase) :
    { run with phase := phase } ∈ (c.turn run.number phase).runs :=
  mem_turn.mpr (.inl ⟨run, hr, rfl, rfl⟩)

theorem mem_afterRead (hr : run ∈ c.runs) {r : Reading} (h : r.Uncancelled)
    (events : List Event) :
    { run with phase := run.afterRead r } ∈ (c.afterRead run r events).state.runs := by
  rw [afterRead_uncancelled h]; exact mem_turn_self hr _

theorem mem_self (hr : run ∈ c.runs) {phase : RunPhase} (h : run.phase = phase) :
    { run with phase := phase } ∈ c.runs := by
  subst h; exact hr

/-- A run that waits takes what comes. -/
theorem mem_taken (hr : run ∈ c.runs) (hu : run.cancelled = false) {r q : Reading}
    (hp : run.phase = .reading r) (hq : q.Uncancelled) :
    { run with phase := if r.isWaiting then run.afterRead q else .reading r } ∈
      (if !r.isWaiting then ({ state := c } : CoordinatorEffect)
        else if run.cancelled then c.abort run true
        else c.afterRead run q []).state.runs := by
  cases r.isWaiting with
  | false => exact mem_self hr hp
  | true =>
      rw [if_neg (by decide), if_neg (by simp [hu])]
      exact mem_afterRead hr hq []

/-- A run that has frames left deals with one. -/
theorem mem_frame (hr : run ∈ c.runs) {r : Reading}
    (hq : (r.applyNext run.cancelled).2.Uncancelled) :
    { run with phase := run.afterRead (r.applyNext run.cancelled).2 } ∈
      (c.frame run r).state.runs := by
  rw [frame]
  generalize r.applyNext run.cancelled = next at hq ⊢
  obtain ⟨_ | p, q⟩ := next
  · exact mem_afterRead hr hq []
  · dsimp only
    split
    · exact mem_afterRead (c := { c with progress := some p }) hr hq _
    · exact mem_afterRead hr hq []

section
variable (hc : c.Coherent) (hr : run ∈ c.runs) (hu : run.cancelled = false)
include hc hr hu

theorem mem_step_reply (answer : Except MaintenanceError Unit) :
    { run with phase := run.advance (.reply run.number answer) } ∈
      (c.step (.reply run.number answer)).state.runs := by
  have hstep : c.step (.reply run.number answer) = _ := hc.step_eq hr rfl
  simp only [hstep, stepRun, DeletionRun.advance]
  cases hp : run.phase with
  | requesting =>
      dsimp only
      simp only [reply]
      rw [if_neg (by simp [hu])]
      cases answer with
      | ok u => cases u; exact mem_afterRead hr (Reading.uncancelled_of_open rfl) []
      | error e =>
          exact mem_turn_self hr (.concluding (.transportFailure run.requested e.message))
  | reading r => exact mem_self hr hp
  | concluding o => exact mem_self hr hp

theorem mem_step_item (item : BodyItem) :
    { run with phase := run.advance (.item run.number item) } ∈
      (c.step (.item run.number item)).state.runs := by
  have hstep : c.step (.item run.number item) = _ := hc.step_eq hr rfl
  simp only [hstep, stepRun, DeletionRun.advance]
  cases hp : run.phase with
  | requesting => exact mem_self hr hp
  | concluding o => exact mem_self hr hp
  | reading r =>
      exact mem_taken hr hu hp (Reading.uncancelled_deliver (hc.open_of_reading hr hp) item)

theorem mem_step_close :
    { run with phase := run.advance (.close run.number) } ∈
      (c.step (.close run.number)).state.runs := by
  have hstep : c.step (.close run.number) = _ := hc.step_eq hr rfl
  simp only [hstep, stepRun, DeletionRun.advance]
  cases hp : run.phase with
  | requesting => exact mem_self hr hp
  | concluding o => exact mem_self hr hp
  | reading r =>
      exact mem_taken hr hu hp (Reading.uncancelled_close (hc.open_of_reading hr hp))

theorem mem_step_frame :
    { run with phase := run.advance (.frame run.number) } ∈
      (c.step (.frame run.number)).state.runs := by
  have hstep : c.step (.frame run.number) = _ := hc.step_eq hr rfl
  simp only [hstep, stepRun, DeletionRun.advance]
  cases hp : run.phase with
  | requesting => exact mem_self hr hp
  | concluding o => exact mem_self hr hp
  | reading r =>
      have hq := Reading.uncancelled_applyNext (hc.open_of_reading hr hp)
      by_cases hpend : r.pending = []
      · simp only [if_pos hpend]; exact mem_self hr hp
      · simp only [if_neg hpend]
        have hnext : r.applyNext run.cancelled = r.applyNext false := by rw [hu]
        rw [← hnext] at hq ⊢
        exact mem_frame hr hq

/-- **A run that is not cancelled advances.** -/
theorem mem_step (ha : a.Forwards run.number) :
    { run with phase := run.advance a } ∈ (c.step a).state.runs := by
  cases a with
  | reply m answer => cases ha; exact mem_step_reply hc hr hu answer
  | item m item => cases ha; exact mem_step_item hc hr hu item
  | close m => cases ha; exact mem_step_close hc hr hu
  | frame m => cases ha; exact mem_step_frame hc hr hu
  | _ => cases ha

end

end
end Coordinator

/-! ### What a run does by itself -/

/-- A run reads the rest of a body: item by item, frame by frame, until the read has stopped. -/
def bodyActions (n : Nat) (r : Reading) : List BodyItem → List CoordinatorAction
  | [] => .close n :: List.replicate r.close.pending.length (.frame n)
  | item :: rest =>
      let q := r.deliver item
      .item n item :: List.replicate q.pending.length (.frame n) ++
        if q.applyPending.2.stopped then [] else bodyActions n q.applyPending.2 rest

/-- A run takes the reply to its request and reads the body, if there is one. -/
def replyActions (n : Nat) : DeletionReply → List CoordinatorAction
  | .error e => [.reply n (.error e)]
  | .ok items => .reply n (.ok ()) :: bodyActions n {} items

namespace DeletionRun
section
variable {run : DeletionRun} {r : Reading}

theorem advanced_append (run : DeletionRun) (xs ys : List CoordinatorAction) :
    run.advanced (xs ++ ys) = (run.advanced xs).advanced ys :=
  List.foldl_append

theorem afterRead_open (h : r.stopped = false) : run.afterRead r = .reading r := by
  rw [afterRead, if_neg (by simp [h])]

theorem afterRead_stopped (h : r.stopped = true) :
    run.afterRead r = .concluding (Coordinator.outcomeOf run.requested r.report) := by
  rw [afterRead, if_pos h]

/-- A frame that falls flat leaves the read as it was. -/
theorem advance_frame (run : DeletionRun) (n : Nat) (h : r.Tidy) :
    { run with phase := run.afterRead r }.advance (.frame n) =
      run.afterRead (r.applyNext false).2 := by
  have hnil : r.pending = [] → r.applyNext false = (none, r) := fun hp => by
    rw [Reading.applyNext, hp]
  cases hs : r.stopped with
  | true =>
      -- a read that has stopped has no frames left, so the run stays where it is
      rw [hnil (h hs), afterRead_stopped hs]; rfl
  | false =>
      rw [afterRead_open hs]
      rw [advance]
      dsimp only
      split
      · rename_i hp; rw [hnil hp, afterRead_open hs]
      · rfl

theorem advanced_frames (run : DeletionRun) (n : Nat) (h : r.Tidy) (k : Nat) :
    { run with phase := run.afterRead r }.advanced (List.replicate k (.frame n)) =
      { run with phase := run.afterRead (Reading.applyMany k r).2 } := by
  induction k generalizing r with
  | zero => rfl
  | succ k ih =>
      have hrest := ih (Reading.tidy_applyNext h)
      rw [← advance_frame run n h] at hrest
      exact hrest

/-- **A run reads the rest of a body as an uncancelled read does.** -/
theorem advanced_bodyActions (run : DeletionRun) (n : Nat) (h : Reading.Idle r)
    (items : List BodyItem) :
    { run with phase := .reading r }.advanced (bodyActions n r items) =
      { run with phase := run.afterRead (r.readAll items).2 } := by
  induction items generalizing r with
  | nil =>
      have hclose : { run with phase := .reading r }.advance (.close n) =
          run.afterRead r.close := by
        rw [advance]; dsimp only; rw [if_pos h.isWaiting]; rfl
      have hframes := advanced_frames run n (Reading.tidy_close h.stopped) r.close.pending.length
      rw [← hclose] at hframes
      exact hframes
  | cons item rest ih =>
      have hitem : { run with phase := .reading r }.advance (.item n item) =
          run.afterRead (r.deliver item) := by
        rw [advance]; dsimp only; rw [if_pos h.isWaiting]; rfl
      have hframes := advanced_frames run n (Reading.tidy_deliver h.stopped item)
        (r.deliver item).pending.length
      rw [← hitem] at hframes
      have htaken : { run with phase := .reading r }.advanced
          (.item n item :: List.replicate (r.deliver item).pending.length (.frame n)) =
          { run with phase := run.afterRead (r.deliver item).applyPending.2 } := hframes
      rw [bodyActions, advanced_append, htaken, Reading.readAll]
      cases hs : (r.deliver item).applyPending.2.stopped with
      | true => rw [if_pos rfl, if_pos rfl]; rfl
      | false =>
          rw [if_neg (by decide), if_neg (by decide), afterRead_open hs]
          exact ih (h.next hs)

/-- **A run that takes its reply comes to the verdict on it.** -/
theorem advanced_replyActions (n : Nat) (hp : run.phase = .requesting) (reply : DeletionReply) :
    run.advanced (replyActions n reply) =
      { run with phase := .concluding (reply.verdict run.requested) } := by
  cases reply with
  | error e =>
      have hreply : run.advance (.reply n (.error e)) =
          .concluding (.transportFailure run.requested e.message) := by
        simp only [advance, hp]
      exact congrArg (fun phase => { run with phase := phase }) hreply
  | ok items =>
      have hreply : run.advance (.reply n (.ok ())) = .reading {} := by
        simp only [advance]; rw [hp]; rfl
      obtain ⟨-, hstop, hreport⟩ := Reading.readAll_eq Reading.idle_start items
      have hbody := advanced_bodyActions run n Reading.idle_start items
      rw [← hreply, afterRead_stopped hstop, hreport] at hbody
      exact hbody

end
end DeletionRun

/-! ### A run among others -/

/-- No run is cancelled, and none gets started. -/
def CoordinatorAction.Quiet : CoordinatorAction → Prop
  | .cancel => False
  | .start _ ids => ids = []
  | _ => True

theorem CoordinatorAction.Forwards.quiet {n : Nat} {a : CoordinatorAction} (h : a.Forwards n) :
    a.Quiet := by
  cases a <;> trivial

theorem CoordinatorAction.Forwards.subject {n : Nat} {a : CoordinatorAction} (h : a.Forwards n) :
    Coordinator.subject? a = some n := by
  cases a <;> cases h <;> rfl

namespace Course

/-- A run is in flight and was not cancelled. -/
structure Free (h : Course) (run : DeletionRun) : Prop where
  coherent : h.state.Coherent
  mem : run ∈ h.state.runs
  uncancelled : run.cancelled = false

section
variable {h : Course} {run : DeletionRun} {a : CoordinatorAction}

/-- What other runs do leaves the run as it is. -/
theorem Free.other (hf : h.Free run) (hq : a.Quiet)
    (ha : Coordinator.subject? a ≠ some run.number) : (h.record (h.state.news a)).Free run := by
  have hm := Coordinator.move_news hf.coherent a
  refine ⟨hm.coherent hf.coherent, ?_, hf.uncancelled⟩
  have hlatest : ∀ x ∈ h.state.runs, x.cancelled = false → x.number = run.number := fun x hx hu =>
    (hf.coherent.latest hx hu).trans (hf.coherent.latest hf.mem hf.uncancelled).symm
  simp only [record]
  generalize h.state.news a = news at hm ⊢
  -- only a run that is not cancelled tells of progress or finishes, and that is the run itself
  cases hm with
  | still => exact hf.mem
  | start hd => exact absurd (Coordinator.distinct_eq_nil.mpr hq) hd
  | cancel => exact hq.elim
  | turn hx hs =>
      exact Coordinator.mem_turn.mpr (.inr ⟨hf.mem, fun hn => ha (hs.trans (congrArg _ hn.symm))⟩)
  | tell hx hu => exact absurd (congrArg some (hlatest _ hx hu)) ha
  | finish hx hu => exact absurd (congrArg some (hlatest _ hx hu)) ha
  | abort hx hs =>
      exact Coordinator.mem_retire.mpr ⟨hf.mem, fun hn => ha (hs.trans (congrArg _ hn.symm))⟩

/-- The run advances by what it does itself. -/
theorem Free.forwards (hf : h.Free run) (ha : a.Forwards run.number) :
    (h.record (h.state.news a)).Free { run with phase := run.advance a } := by
  have hm := Coordinator.move_news hf.coherent a
  refine ⟨hm.coherent hf.coherent, ?_, hf.uncancelled⟩
  simp only [record, Coordinator.news_state]
  exact Coordinator.mem_step hf.coherent hf.mem hf.uncancelled ha

/-- The run advances by its own actions only, whatever other runs do in between. -/
theorem Free.extend (hf : h.Free run) (xs : List CoordinatorAction) (hq : ∀ a ∈ xs, a.Quiet)
    (hown : ∀ a ∈ xs.filter (Coordinator.subject? · = some run.number), a.Forwards run.number) :
    (h.extend xs).Free
      (run.advanced (xs.filter (Coordinator.subject? · = some run.number))) := by
  induction xs generalizing h run with
  | nil => exact hf
  | cons a rest ih =>
      have hq' : ∀ a ∈ rest, a.Quiet := fun x hx => hq x (List.mem_cons_of_mem _ hx)
      by_cases ha : Coordinator.subject? a = some run.number
      · rw [List.filter_cons_of_pos (by simpa using ha)] at hown ⊢
        have hnext := hf.forwards (hown a List.mem_cons_self)
        exact ih hnext hq' (fun x hx => hown x (List.mem_cons_of_mem _ hx))
      · rw [List.filter_cons_of_neg (by simpa using ha)] at hown ⊢
        exact ih (hf.other (hq a List.mem_cons_self) ha) hq' hown

/-- A run that is not cancelled returns what it has come to. -/
theorem Free.conclude (hf : h.Free run) {o : DeleteOutcome} (hp : run.phase = .concluding o) :
    (run.number, .returned (.ok o)) ∈ (h.record (h.state.news (.conclude run.number))).ended := by
  have hstep : h.state.step (.conclude run.number) = _ := hf.coherent.step_eq hf.mem rfl
  have hlatest := hf.coherent.latest hf.mem hf.uncancelled
  have hended : (h.state.news (.conclude run.number)).ended =
      some (run.number, .returned (.ok o)) := by
    simp only [Coordinator.news, News.ofEffect, hstep, Coordinator.stepRun, hp,
      Coordinator.conclude]
    rw [if_pos ⟨hlatest.symm, by simp [hf.uncancelled]⟩]
    rfl
  simp [record, hended]

/-- Nothing is forgotten. -/
theorem mem_extend (h : Course) (xs : List CoordinatorAction) :
    (∀ x ∈ h.submitted, x ∈ (h.extend xs).submitted) ∧ ∀ x ∈ h.ended, x ∈ (h.extend xs).ended := by
  induction xs generalizing h with
  | nil => exact ⟨fun _ hx => hx, fun _ hx => hx⟩
  | cons a rest ih =>
      obtain ⟨h₁, h₂⟩ := ih (h.record (h.state.news a))
      exact ⟨fun x hx => h₁ x (List.mem_append_left _ hx),
        fun x hx => h₂ x (List.mem_append_left _ hx)⟩

/-- A run that gets started makes its request, and is not cancelled. -/
theorem free_of_start (hc : h.state.Coherent) (ruleId : Int64) {ids : List Int64}
    (hne : ids ≠ []) :
    let h' := h.record (h.state.news (.start ruleId ids))
    (h.state.generation + 1, ruleId, ids.eraseDups) ∈ h'.submitted ∧
      h'.Free
        { number := h.state.generation + 1, ruleId := ruleId
          requested := .ofNat ids.eraseDups.length } := by
  have hd : Coordinator.distinct ids ≠ [] := mt Coordinator.distinct_eq_nil.mp hne
  have hstep : h.state.step (.start ruleId ids) = _ := hc.start_eq ruleId hd
  have hm := Coordinator.move_start hc ruleId ids
  simp only [Coordinator.news, hstep, News.ofEffect, Coordinator.distinct_eq] at hm ⊢
  refine ⟨List.mem_append_right _ (List.mem_singleton.mpr rfl), hm.coherent hc, ?_, rfl⟩
  exact Coordinator.mem_launch.mpr (.inr rfl)

/-- A run makes its request once. -/
theorem Accounted.submitted_filter (ha : h.Accounted) {n : Nat} {x : Int64 × List Int64}
    (hx : (n, x) ∈ h.submitted) : h.submitted.filter (·.1 = n) = [(n, x)] := by
  refine filter_eq_singleton ?_ hx
  have hnum : h.submitted.map (·.1) = h.started.map (·.number) := by
    rw [ha.submitted, List.map_map]; rfl
  rw [hnum, ha.numbers]
  exact List.nodup_range'

end

/-- The actions a run takes by itself to read its body bring it forward. -/
theorem forwards_bodyActions (n : Nat) (r : Reading) (items : List BodyItem) :
    ∀ a ∈ bodyActions n r items, a.Forwards n := by
  have hframes : ∀ k, ∀ a ∈ List.replicate k (CoordinatorAction.frame n), a.Forwards n := by
    intro k a ha
    rw [List.eq_of_mem_replicate ha]
    rfl
  induction items generalizing r with
  | nil =>
      intro a ha
      rcases List.mem_cons.mp ha with rfl | ha
      · rfl
      · exact hframes _ a ha
  | cons item rest ih =>
      intro a ha
      rw [bodyActions] at ha
      rcases List.mem_append.mp ha with ha | ha
      · rcases List.mem_cons.mp ha with rfl | ha
        · rfl
        · exact hframes _ a ha
      · split at ha
        · cases ha
        · exact ih _ a ha

theorem forwards_replyActions (n : Nat) (reply : DeletionReply) :
    ∀ a ∈ replyActions n reply, a.Forwards n := by
  cases reply with
  | error e => intro a ha; cases List.mem_singleton.mp ha; rfl
  | ok items =>
      intro a ha
      rcases List.mem_cons.mp ha with rfl | ha
      · rfl
      · exact forwards_bodyActions n {} items a ha

/-- What a run is left with that nobody interfered with: it made one request, of the distinct ids,
and returned the verdict on its reply, which accounts for exactly these ids. -/
theorem ended_of_left_alone {earlier later : List CoordinatorAction} {ruleId : Int64}
    {ids : List Int64} {reply : DeletionReply} {n : Nat}
    (hn : n = (of earlier).state.generation + 1) (hne : ids ≠ [])
    (hquiet : ∀ a ∈ later, a.Quiet)
    (hown : later.filter (Coordinator.subject? · = some n) =
      replyActions n reply ++ [.conclude n]) :
    let h := of (earlier ++ .start ruleId ids :: later)
    (n, ruleId, ids.eraseDups) ∈ h.submitted ∧
      (n, .returned (.ok (reply.verdict (.ofNat ids.eraseDups.length)))) ∈ h.ended := by
  subst hn
  intro h
  obtain ⟨hsub, hfree⟩ := free_of_start (coherent earlier) ruleId hne
  have hof : h = ((of earlier).record ((of earlier).state.news (.start ruleId ids))).extend later :=
    of_append earlier (.start ruleId ids :: later)
  generalize (of earlier).record _ = h₀ at hsub hfree hof
  rw [hof]
  refine ⟨(mem_extend h₀ later).1 _ hsub, ?_⟩
  -- what comes before the run concludes, and what comes behind that
  obtain ⟨before, rest, rfl, hbefore, hrest⟩ := List.filter_eq_append_iff.mp hown
  obtain ⟨between, after, rfl, hbetween, -, -⟩ := List.filter_eq_cons_iff.mp hrest
  have hcome := hfree.extend before (fun a ha => hquiet a (List.mem_append_left _ ha))
    (by rw [hbefore]; exact forwards_replyActions _ reply)
  rw [hbefore, DeletionRun.advanced_replyActions _ rfl] at hcome
  have hnone : between.filter
      (Coordinator.subject? · = some ((of earlier).state.generation + 1)) = [] :=
    List.filter_eq_nil_iff.mpr hbetween
  have hstay := hcome.extend between
    (fun a ha => hquiet a (List.mem_append_right _ (List.mem_append_left _ ha)))
    (by rw [hnone]; nofun)
  rw [hnone] at hstay
  have hend := hstay.conclude rfl
  rw [extend_append, extend_append]
  exact (mem_extend _ after).2 _ hend

/-- **A run that nobody interferes with** makes one request, of the distinct ids in the order they
were given, and returns an outcome that accounts for exactly these ids.  When the first final frame
of the reply is a result, the outcome is that of the result; in any other case it is an error that
credits the run with nothing.  Other runs may do anything in between but get started, and the run
may have superseded others before.  Every list of ids that fits into memory is short enough. -/
theorem run_left_alone {earlier later : List CoordinatorAction} {ruleId : Int64}
    {ids : List Int64} {reply : DeletionReply} {n : Nat}
    (hn : n = (of earlier).state.generation + 1) (hne : ids ≠ [])
    (hlen : ids.length < UInt64.size - 1) (hquiet : ∀ a ∈ later, a.Quiet)
    (hown : later.filter (Coordinator.subject? · = some n) =
      replyActions n reply ++ [.conclude n]) :
    let h := of (earlier ++ .start ruleId ids :: later)
    h.submitted.filter (·.1 = n) = [(n, ruleId, ids.eraseDups)] ∧
      ∃ o, h.ended.filter (·.1 = n) = [(n, .returned (.ok o))] ∧
        o.tally.requested.toNat = ids.eraseDups.length ∧ o.tally.Balanced ∧
        match reply.result? with
        | some r => o = .classify (.ofResult (.ofNat ids.eraseDups.length) r)
        | none => o.kind = .error ∧ o.tally.deleted = 0 ∧ o.tally.failed = o.tally.requested := by
  intro h
  have ha : h.Accounted := accounted _
  obtain ⟨hsub, hend⟩ := ended_of_left_alone hn hne hquiet hown
  have hle := Coordinator.length_eraseDups_le ids
  have hsize : UInt64.size = 2 ^ 64 := rfl
  have htoNat : (UInt64.ofNat ids.eraseDups.length).toNat = ids.eraseDups.length := by
    rw [UInt64.toNat_ofNat']; omega
  have hlt : (UInt64.ofNat ids.eraseDups.length).toNat < UInt64.size - 1 := by omega
  obtain ⟨hreq, hbalanced⟩ := DeletionReply.balanced_verdict hlt reply
  refine ⟨ha.submitted_filter hsub, _, ha.ended_filter hend, by rw [hreq, htoNat], hbalanced, ?_⟩
  have hv := DeletionReply.verdict_eq (.ofNat ids.eraseDups.length) reply
  cases hr : reply.result? with
  | some r => simpa only [hr] using hv
  | none =>
      simp only [hr] at hv
      obtain ⟨reason, hv⟩ := hv
      rw [hv]
      exact ⟨rfl, rfl, rfl⟩

/-- A reply whose one frame is the final result, to a run that supersedes another one. -/
theorem run_left_alone_with_result :
    let body := "event: complete\ndata: \x7b\"deleted\":1,\"failed\":0,\"skipped\":0\x7d\n\n"
    let reply : DeletionReply := .ok [.ok (Utf8.ofText body)]
    let h := of ([.start 9 [1]] ++
      .start 3 [5, 7, 5] :: .notice 1 :: (replyActions 2 reply ++ [.conclude 2]))
    h.submitted.filter (·.1 = 2) = [(2, 3, [5, 7])] ∧
      ∃ o, h.ended.filter (·.1 = 2) = [(2, .returned (.ok o))] ∧
        o.tally.requested.toNat = 2 ∧ o.tally.Balanced ∧
        o = .classify (.ofResult 2 { deleted := 1, failed := 0, skipped := 0 }) := by
  intro body reply
  have hresult : reply.result? = some { deleted := 1, failed := 0, skipped := 0 } := by
    decide +kernel
  generalize reply = reply at hresult ⊢
  intro h
  have hfilter : (replyActions 2 reply).filter (Coordinator.subject? · = some 2) =
      replyActions 2 reply := by
    refine List.filter_eq_self.mpr (fun a ha => ?_)
    exact decide_eq_true (forwards_replyActions 2 reply a ha).subject
  have hown : (CoordinatorAction.notice 1 :: (replyActions 2 reply ++ [.conclude 2])).filter
      (Coordinator.subject? · = some 2) = replyActions 2 reply ++ [.conclude 2] := by
    rw [List.filter_cons_of_neg (by decide), List.filter_append, hfilter]
    rfl
  have hquiet : ∀ a ∈ CoordinatorAction.notice 1 :: (replyActions 2 reply ++ [.conclude 2]),
      a.Quiet := by
    intro a ha
    rcases List.mem_cons.mp ha with rfl | ha
    · trivial
    · rcases List.mem_append.mp ha with ha | ha
      · exact (forwards_replyActions 2 reply a ha).quiet
      · cases List.mem_singleton.mp ha; trivial
  have hids : [5, 7, 5].eraseDups = [(5 : Int64), 7] := by decide
  have hn : 2 = (of [.start 9 [1]]).state.generation + 1 := rfl
  have hrun := @run_left_alone _ _ 3 _ _ _ hn (List.cons_ne_nil 5 [7, 5]) (by decide) hquiet hown
  rw [hids, hresult] at hrun
  exact hrun

end Course

end MediaMonitor
