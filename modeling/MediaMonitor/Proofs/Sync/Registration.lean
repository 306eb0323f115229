import MediaMonitor.Proofs.Sync.Cadence

/-!
# Registrations

The operations that a tracker accepts are registered in their order, each once: those registered so
far, followed by those in the queue, are all that were accepted.  While a request is outstanding
none is registered, so that its snapshot meets the table of the time of the request, and an
operation accepted in the meantime is registered after it (`TrackerCourse.registered_in_order`).  No
time passes before an operation is registered, except for a reply that has to come first.
-/

namespace MediaMonitor

/-- The operations that were accepted. -/
def acceptedIn (log : List (Nat × TrackerNote)) : List SyncOperation :=
  log.filterMap (fun n => match n.2 with
    | .accepted op => some op
    | _ => none)

/-- The operations that were registered. -/
def registeredIn (log : List (Nat × TrackerNote)) : List SyncOperation :=
  log.filterMap (fun n => match n.2 with
    | .registered op => some op
    | _ => none)

theorem acceptedIn_append (xs ys : List (Nat × TrackerNote)) :
    acceptedIn (xs ++ ys) = acceptedIn xs ++ acceptedIn ys :=
  List.filterMap_append

theorem registeredIn_append (xs ys : List (Nat × TrackerNote)) :
    registeredIn (xs ++ ys) = registeredIn xs ++ registeredIn ys :=
  List.filterMap_append

namespace SyncOperation

/-- The operation waits for all keys of another one. -/
def Covers (present op : SyncOperation) : Prop :=
  ∀ k ∈ op.keys, ∃ p ∈ present.keys, p.key = k.key

theorem Covers.refl (op : SyncOperation) : op.Covers op := fun k hk => ⟨k, hk, rfl⟩

/-- Keys that join those of an operation are waited for, and so are those it waited for. -/
theorem covers_merge (present op : SyncOperation) : (present.merge op.keys).Covers op :=
  (mem_foldl_addKey op.keys present.keys).2

theorem Covers.merge {present op : SyncOperation} (h : present.Covers op)
    (more : List TrackedKey) : (present.merge more).Covers op := by
  intro k hk
  obtain ⟨p, hp, heq⟩ := h k hk
  exact ⟨p, (mem_foldl_addKey more present.keys).1 p hp, heq⟩

end SyncOperation

namespace SyncTable

/-- The rule of an operation is tracked, and waits for all its keys. -/
def Holds (t : SyncTable) (op : SyncOperation) : Prop :=
  ∃ present, t.operations.find? op.ruleId = some present ∧ present.Covers op

theorem holds_insert (t : SyncTable) (op : SyncOperation) : (t.insert op).Holds op := by
  refine ⟨_, (find?_insert t op op.ruleId).trans (if_pos rfl), ?_⟩
  cases t.operations.find? op.ruleId with
  | none => exact .refl op
  | some present => exact SyncOperation.covers_merge present op

theorem Holds.insert {t : SyncTable} {op : SyncOperation} (h : t.Holds op)
    (other : SyncOperation) : (t.insert other).Holds op := by
  obtain ⟨present, hfind, hcovers⟩ := h
  by_cases hrule : other.ruleId = op.ruleId
  · refine ⟨_, (find?_insert t other op.ruleId).trans (if_pos hrule), ?_⟩
    rw [hfind]
    exact hcovers.merge other.keys
  · exact ⟨present, (find?_insert t other op.ruleId).trans ((if_neg hrule).trans hfind), hcovers⟩

end SyncTable

namespace Tracker

/-- The task takes registrations: it was not cancelled, and waits for no reply. -/
def Listens (t : Tracker) : Prop :=
  t.cancelled = false ∧ (t.phase = .idle ∨ ∃ due, t.phase = .waiting due)

variable {t : Tracker}

theorem Listens.turn? (h : t.Listens) (hqueue : t.queue ≠ []) (now : Nat) :
    t.turn? now = some .register := by
  obtain ⟨hcancelled, hphase | ⟨due, hphase⟩⟩ := h <;>
    simp [Tracker.turn?, hphase, hcancelled, hqueue]

/-- A task that takes a registration goes on to listen. -/
theorem Listens.take (h : t.Listens) {op : SyncOperation} {rest : List SyncOperation}
    (hqueue : t.queue = op :: rest) (now : Nat) :
    (t.take now .register).Listens ∧ (t.take now .register).queue = rest ∧
      (t.take now .register).table = t.table.insert op := by
  obtain ⟨hcancelled, hphase | ⟨due, hphase⟩⟩ := h
  · rw [take_register_idle hqueue hphase]
    exact ⟨⟨hcancelled, .inr ⟨_, rfl⟩⟩, rfl, rfl⟩
  · rw [take_register_waiting hqueue hphase]
    exact ⟨⟨hcancelled, .inr ⟨due, hphase⟩⟩, rfl, rfl⟩

theorem listens_rearm (hcancelled : t.cancelled = false) (now : Nat) : (t.rearm now).Listens := by
  refine ⟨hcancelled, ?_⟩
  rw [rearm]
  cases t.table.isEmpty with
  | true => exact .inl rfl
  | false => exact .inr ⟨_, rfl⟩

/-- After a reply the task listens, to all that came in the meantime. -/
theorem listens_reply (hphase : t.phase = .polling) (hcancelled : t.cancelled = false) (now : Nat)
    (answer : Except MaintenanceError SyncSnapshot) :
    (t.reply now answer).1.Listens ∧ (t.reply now answer).1.queue = t.queue := by
  cases answer with
  | error e =>
      rw [reply, if_neg (by simp [hphase])]
      exact ⟨listens_rearm hcancelled now, rfl⟩
  | ok s =>
      rw [reply, if_neg (by simp [hphase])]
      exact ⟨listens_rearm (t := publish { t with table := _ }) hcancelled now, rfl⟩

end Tracker

namespace TrackerCourse

/-! ### First in, first out -/

/-- The log ends with a request that is outstanding: all that was accepted before it is registered,
and only acceptances came since. -/
def Asking (log : List (Nat × TrackerNote)) : Prop :=
  ∃ start asked meanwhile, log = start ++ (asked, .requested) :: meanwhile ∧
    acceptedIn start = registeredIn start ∧ ∀ n ∈ meanwhile, ∃ op, n.2 = .accepted op

/-- The operations in the queue are those that were accepted and are not registered yet. -/
structure Orderly (h : TrackerCourse) : Prop where
  queue : acceptedIn h.log = registeredIn h.log ++ h.tracker.queue
  asking : h.tracker.phase = .polling → Asking h.log

theorem rearm_phase_ne_polling (t : Tracker) (now : Nat) : (t.rearm now).phase ≠ .polling := by
  intro h
  rw [Tracker.rearm] at h
  cases hempty : t.table.isEmpty <;> rw [hempty] at h <;> cases h

section
variable {h h' : TrackerCourse}

theorem Asking.accept {log : List (Nat × TrackerNote)} (ha : Asking log) (now : Nat)
    (op : SyncOperation) : Asking (log ++ [(now, .accepted op)]) := by
  obtain ⟨start, asked, meanwhile, rfl, hstart, hmeanwhile⟩ := ha
  refine ⟨start, asked, meanwhile ++ [(now, .accepted op)], ?_, hstart, fun n hn => ?_⟩
  · rw [List.append_assoc, List.cons_append]
  · rcases List.mem_append.mp hn with hn | hn
    · exact hmeanwhile n hn
    · rw [List.mem_singleton.mp hn]
      exact ⟨op, rfl⟩

/-- A registration is taken from the front of the queue. -/
theorem Orderly.register (ho : h.Orderly) {op : SyncOperation} {rest : List SyncOperation}
    (hqueue : h.tracker.queue = op :: rest) {tracker : Tracker} (hrest : tracker.queue = rest)
    (hphase : tracker.phase ≠ .polling) : (h.record tracker (.registered op)).Orderly where
  queue := by
    rw [record_log, acceptedIn_append, registeredIn_append, ho.queue, hqueue, record_tracker, hrest]
    simp [acceptedIn, registeredIn]
  asking hpolling := absurd hpolling hphase

/-- What is neither accepted nor registered leaves the queue as it is. -/
theorem Orderly.keep (ho : h.Orderly) {tracker : Tracker} {note : TrackerNote}
    (hqueue : tracker.queue = h.tracker.queue) (haccepted : acceptedIn [(h.now, note)] = [])
    (hregistered : registeredIn [(h.now, note)] = []) (hphase : tracker.phase ≠ .polling) :
    (h.record tracker note).Orderly where
  queue := by
    rw [record_log, acceptedIn_append, registeredIn_append, haccepted, hregistered, ho.queue,
      record_tracker, hqueue, List.append_nil, List.append_nil]
  asking hpolling := absurd hpolling hphase

/-- **Every step keeps the order.** -/
theorem Orderly.step (ho : h.Orderly) (hs : Step h h') : h'.Orderly := by
  cases hs with
  | refuse => exact ho
  | pass => exact ⟨ho.queue, ho.asking⟩
  | shutdown => exact ⟨ho.queue, ho.asking⟩
  | accept op hkeys hphase =>
      refine ⟨?_, fun hpolling => (ho.asking hpolling).accept h.now op⟩
      rw [record_log, acceptedIn_append, registeredIn_append, ho.queue, List.append_assoc,
        List.append_assoc]
      rfl
  | stop => exact ho.keep rfl rfl rfl nofun
  | fill op rest hphase hcancelled hqueue => exact ho.register hqueue rfl nofun
  | join op rest due hphase hcancelled hqueue =>
      exact ho.register hqueue rfl (fun hpolling => by cases hphase.symm.trans hpolling)
  | request due hphase hcancelled hqueue hdue =>
      have hall : acceptedIn h.log = registeredIn h.log := by
        rw [ho.queue, hqueue, List.append_nil]
      refine ⟨?_, fun _ => ⟨h.log, h.now, [], rfl, hall, fun _ hn => nomatch hn⟩⟩
      rw [record_log, acceptedIn_append, registeredIn_append, hall, record_tracker, hqueue,
        List.append_nil]
      rfl
  | fail e hphase hcancelled => exact ho.keep rfl rfl rfl (rearm_phase_ne_polling _ _)
  | apply s hphase hcancelled => exact ho.keep rfl rfl rfl (rearm_phase_ne_polling _ _)

end

theorem orderly (interval : Nat) (actions : List TrackerAction) : (of interval actions).Orderly :=
  step_induction ⟨rfl, nofun⟩ (fun _ _ hs ho => ho.step hs) actions

/-! ### What is in the queue is registered -/

/-- The task takes all that is in the queue, before any time passes. -/
theorem take_queue {h : TrackerCourse} (hlistens : h.tracker.Listens) :
    let g := (List.replicate h.tracker.queue.length TrackerAction.turn).foldl step h
    g.now = h.now ∧ registeredIn g.log = registeredIn h.log ++ h.tracker.queue ∧
      (∀ op, h.tracker.table.Holds op → g.tracker.table.Holds op) ∧
      ∀ op ∈ h.tracker.queue, g.tracker.table.Holds op := by
  generalize hqueue : h.tracker.queue = queue
  induction queue generalizing h with
  | nil => exact ⟨rfl, (List.append_nil _).symm, fun _ hop => hop, fun _ hop => nomatch hop⟩
  | cons op rest ih =>
      have hturn : h.step .turn = h.record (h.tracker.take h.now .register) (.registered op) := by
        rw [TrackerCourse.step, hlistens.turn? (by simp [hqueue])]
        simp only [turn, hqueue]
      obtain ⟨hlistens', hrest, htable⟩ := hlistens.take hqueue h.now
      obtain ⟨hnow, hregistered, hkeep, hholds⟩ := ih (h := h.step .turn)
        (by rw [hturn]; exact hlistens') (by rw [hturn]; exact hrest)
      rw [List.length_cons, List.replicate_succ, List.foldl_cons]
      have hkeep' (other : SyncOperation) (hother : (h.tracker.table.insert op).Holds other) :=
        hkeep other (by rw [hturn, record_tracker, htable]; exact hother)
      refine ⟨?_, ?_, fun other hother => hkeep' other (hother.insert op), ?_⟩
      · rw [hnow, hturn, record_now]
      · rw [hregistered, hturn, record_log, registeredIn_append, List.append_assoc]
        rfl
      · intro other hother
        rcases List.mem_cons.mp hother with rfl | hother
        · exact hkeep' other (SyncTable.holds_insert _ _)
        · exact hholds other hother

/-- Acceptances do not touch the table. -/
theorem tableOf_accepted (log : List (Nat × TrackerNote)) {more : List (Nat × TrackerNote)}
    (hmore : ∀ n ∈ more, ∃ op, n.2 = .accepted op) : tableOf (log ++ more) = tableOf log := by
  induction more using List.reverseRecOn with
  | nil => rw [List.append_nil]
  | append_singleton rest n ih =>
      obtain ⟨op, hop⟩ := hmore n (List.mem_append_right _ (List.mem_singleton.mpr rfl))
      rw [← List.append_assoc, tableOf_concat, hop,
        ih (fun m hm => hmore m (List.mem_append_left _ hm))]
      rfl

theorem registeredIn_accepted {log : List (Nat × TrackerNote)}
    (hlog : ∀ n ∈ log, ∃ op, n.2 = .accepted op) : registeredIn log = [] := by
  refine List.filterMap_eq_nil_iff.mpr (fun n hn => ?_)
  obtain ⟨op, hop⟩ := hlog n hn
  rw [hop]

/-- A reply that is outstanding may come: the task listens then, and the queue is as it was. -/
theorem listens_after_reply {interval : Nat} {h : TrackerCourse} {pending : Option Nat}
    (hk : h.KeepsTime interval pending) (hcancelled : h.tracker.cancelled = false)
    (answer : Except MaintenanceError SyncSnapshot) :
    let g := (if Settled h.log then [] else [TrackerAction.reply answer]).foldl step h
    g.tracker.Listens ∧ g.tracker.queue = h.tracker.queue ∧ g.now = h.now ∧
      registeredIn g.log = registeredIn h.log := by
  obtain ⟨hidle, hpolling⟩ := hk.standing.phase_eq hcancelled
  by_cases hsettled : Settled h.log
  · rw [if_pos hsettled]
    exact ⟨⟨hcancelled, hidle hsettled⟩, rfl, rfl, rfl⟩
  · have hphase := hpolling hsettled
    obtain ⟨hlistens, hqueue⟩ := Tracker.listens_reply hphase hcancelled h.now answer
    have hreply : h.step (.reply answer) = h.record (h.tracker.reply h.now answer).1
        (.replied answer (h.tracker.reply h.now answer).2) := by
      rw [TrackerCourse.step, if_pos ⟨hphase, by simp [Tracker.turn?, hphase, hcancelled]⟩]
    rw [if_neg hsettled, List.foldl_cons, List.foldl_nil, hreply]
    refine ⟨hlistens, hqueue, rfl, ?_⟩
    rw [record_log, registeredIn_append]
    exact List.append_nil _

/-- What is in the queue is registered before any time passes, after the reply that may have to come
first. -/
theorem take_all {interval : Nat} {actions : List TrackerAction}
    (hcancelled : (of interval actions).tracker.cancelled = false)
    (answer : Except MaintenanceError SyncSnapshot) :
    let h := of interval actions
    let reply := if Settled h.log then [] else [.reply answer]
    let g := of interval (actions ++ reply ++ .replicate h.tracker.queue.length .turn)
    g.now = h.now ∧ registeredIn g.log = acceptedIn h.log ∧
      ∀ op ∈ h.tracker.queue, g.tracker.table.Holds op := by
  intro h reply g
  obtain ⟨pending, hk⟩ := keepsTime interval actions
  obtain ⟨hlistens, hqueue, hnow, hregistered⟩ := listens_after_reply hk hcancelled answer
  rw [← of_append] at hlistens hqueue hnow hregistered
  obtain ⟨hnow', hregistered', -, hholds⟩ := take_queue hlistens
  rw [hqueue, ← of_append] at hnow' hregistered' hholds
  refine ⟨hnow'.trans hnow, ?_, hholds⟩
  rw [hregistered', hregistered, (orderly interval actions).queue]

/-- A snapshot meets the table of the time of its request; what came since are acceptances. -/
theorem exists_request {interval : Nat} {actions : List TrackerAction}
    {before after : List (Nat × TrackerNote)} {time : Nat} {s : SyncSnapshot}
    {events : List Event}
    (hlog : (of interval actions).log = before ++ (time, .replied (.ok s) events) :: after) :
    ∃ start asked meanwhile, before = start ++ (asked, .requested) :: meanwhile ∧
      (∀ n ∈ meanwhile, ∃ op, n.2 = .accepted op) ∧ acceptedIn start = registeredIn start ∧
      events = ((tableOf start).applySnapshot s).1.events ∧
      tableOf (before ++ [(time, .replied (.ok s) events)]) =
        ((tableOf start).applySnapshot s).2 := by
  obtain ⟨earlier, g, rfl, hs, hg⟩ := exists_step hlog
  obtain ⟨hphase, hevents⟩ := hs.of_snapshot hg
  obtain ⟨start, asked, meanwhile, hstart, hall, hmeanwhile⟩ :=
    (orderly interval earlier).asking hphase
  have htable : tableOf (of interval earlier).log = tableOf start := by
    rw [hstart, List.append_cons, tableOf_accepted _ hmeanwhile]
    exact tableOf_concat ..
  refine ⟨start, asked, meanwhile, hstart, hmeanwhile, hall, ?_, ?_⟩
  · rw [hevents, ← tableOf_log, htable]
  · rw [tableOf_concat, htable]
    rfl

/-- **Operations are registered in the order of their acceptance**, each once, and a snapshot meets
the operations that were registered before its request. -/
theorem registered_in_order (interval : Nat) (actions : List TrackerAction) :
    let h := of interval actions
    (∀ before time s events after, h.log = before ++ (time, .replied (.ok s) events) :: after →
      ∃ start asked meanwhile, before = start ++ (asked, .requested) :: meanwhile ∧
        (∀ n ∈ meanwhile, ∃ op, n.2 = .accepted op) ∧ acceptedIn start = registeredIn start ∧
        events = ((tableOf start).applySnapshot s).1.events ∧
        tableOf (before ++ [(time, .replied (.ok s) events)]) =
          ((tableOf start).applySnapshot s).2 ∧
        registeredIn after ++ h.tracker.queue = acceptedIn meanwhile ++ acceptedIn after) ∧
    acceptedIn h.log = registeredIn h.log ++ h.tracker.queue ∧
    (h.tracker.cancelled = false → ∀ answer,
      let reply := if Settled h.log then [] else [.reply answer]
      let g := of interval (actions ++ reply ++ .replicate h.tracker.queue.length .turn)
      g.now = h.now ∧ registeredIn g.log = acceptedIn h.log ∧
        ∀ op ∈ h.tracker.queue, g.tracker.table.Holds op) ∧
    (h.tracker.cancelled = false → Settled h.log → h.tracker.queue ≠ [] → h.step .tick = h) := by
  intro h
  have hqueue : acceptedIn h.log = registeredIn h.log ++ h.tracker.queue :=
    (orderly interval actions).queue
  refine ⟨?_, hqueue, fun hcancelled answer => take_all hcancelled answer, ?_⟩
  · intro before time s events after hlog
    obtain ⟨start, asked, meanwhile, hbefore, hmeanwhile, hall, hevents, htable⟩ :=
      exists_request hlog
    refine ⟨start, asked, meanwhile, hbefore, hmeanwhile, hall, hevents, htable, ?_⟩
    have haccepted : acceptedIn h.log =
        acceptedIn start ++ (acceptedIn meanwhile ++ acceptedIn after) := by
      rw [hlog, hbefore, acceptedIn_append, acceptedIn_append, List.append_assoc]
      rfl
    have hregistered : registeredIn h.log =
        registeredIn start ++ (registeredIn meanwhile ++ registeredIn after) := by
      rw [hlog, hbefore, registeredIn_append, registeredIn_append, List.append_assoc]
      rfl
    rw [haccepted, hregistered, hall, registeredIn_accepted hmeanwhile, List.nil_append,
      List.append_assoc] at hqueue
    exact (List.append_cancel_left hqueue).symm
  · intro hcancelled hsettled hne
    obtain ⟨pending, hk⟩ := keepsTime interval actions
    have hlistens : h.tracker.Listens :=
      ⟨hcancelled, (hk.standing.phase_eq hcancelled).1 hsettled⟩
    rw [TrackerCourse.step, if_neg (by simp [hlistens.turn? hne])]

/-- While the snapshot is on its way that retires a rule, more of its syncs come: they are
registered after it. -/
theorem registered_after_retirement :
    let op (library : String) : SyncOperation := ⟨1, [⟨⟨1, library⟩, library⟩]⟩
    let actions : List TrackerAction :=
      [.track (op "shows"), .turn, .tick, .turn, .track (op "films")]
    let answer : Except MaintenanceError SyncSnapshot := .ok ⟨∅⟩
    (of 1 actions).tracker.queue = [op "films"] ∧
      (of 1 (actions ++ [.reply answer])).tracker.table.contains 1 = false ∧
      (of 1 (actions ++ [.reply answer] ++ [.turn])).tracker.table.Holds (op "films") := by
  intro op actions answer
  have hqueue : (of 1 actions).tracker.queue = [op "films"] := by decide +kernel
  have hopen : ¬ Settled (of 1 actions).log := by decide +kernel
  obtain ⟨-, -, hholds⟩ := (registered_in_order 1 actions).2.2.1 (by decide +kernel) answer
  simp only [if_neg hopen, hqueue, List.length_singleton, List.replicate_one] at hholds
  exact ⟨hqueue, by decide +kernel, hholds _ (List.mem_singleton.mpr rfl)⟩

end TrackerCourse

end MediaMonitor
