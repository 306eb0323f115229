import MediaMonitor.Proofs.Sync.Journal

/-!
# The cadence of requests

A tracker asks for a snapshot one interval after each `Cue`: a registration that fills the empty
table, or a reply that leaves rules in it.  A reply that empties the table is a cue for no request,
and a registration that joins others is no cue at all.  `TrackerCourse.requests_on_time` says so of
every course: each request comes at the time its cue asks for, while the table is not empty and no
other request is outstanding; none is overdue; and courses with the same cues make their requests at
the same times, whatever rules they track.
-/

namespace MediaMonitor

/-- What the time of the next request depends on. -/
inductive Cue where
  /-- A registration fills the empty table. -/
  | filled
  /-- A reply leaves rules in the table. -/
  | answered
  /-- A reply empties the table. -/
  | drained
  deriving DecidableEq, Repr

/-- The time of the request that a cue asks for. -/
def Cue.due? (interval time : Nat) : Cue → Option Nat
  | .filled => some (time + interval)
  | .answered => some (time + interval)
  | .drained => none

/-- The cue that a note gives, when it comes to a table. -/
def TrackerNote.cue? (t : SyncTable) : TrackerNote → Option Cue
  | .registered _ => if t.isEmpty then some .filled else none
  | .replied answer events =>
      some (if ((TrackerNote.replied answer events).after t).isEmpty then .drained else .answered)
  | _ => none

/-- The cues of a log that goes on from a table. -/
def cuesFrom : SyncTable → List (Nat × TrackerNote) → List (Nat × Cue)
  | _, [] => []
  | t, n :: rest => ((n.2.cue? t).map (n.1, ·)).toList ++ cuesFrom (n.2.after t) rest

/-- The cues of a log, each with its time. -/
def cues (log : List (Nat × TrackerNote)) : List (Nat × Cue) := cuesFrom {} log

/-- The times of the requests that cues ask for. -/
def dueTimes (interval : Nat) (cues : List (Nat × Cue)) : List Nat :=
  cues.filterMap (fun c => c.2.due? interval c.1)

/-- The times of the requests. -/
def requestTimes (log : List (Nat × TrackerNote)) : List Nat :=
  log.filterMap (fun n => match n.2 with
    | .requested => some n.1
    | _ => none)

/-- The times of the replies. -/
def replyTimes (log : List (Nat × TrackerNote)) : List Nat :=
  log.filterMap (fun n => match n.2 with
    | .replied .. => some n.1
    | _ => none)

/-- No request is outstanding: as many replies have come as requests were made. -/
def Settled (log : List (Nat × TrackerNote)) : Prop :=
  (requestTimes log).length = (replyTimes log).length

instance (log : List (Nat × TrackerNote)) : Decidable (Settled log) :=
  inferInstanceAs (Decidable (_ = _))

theorem cuesFrom_append (t : SyncTable) (xs ys : List (Nat × TrackerNote)) :
    cuesFrom t (xs ++ ys) =
      cuesFrom t xs ++ cuesFrom (xs.foldl (fun t n => n.2.after t) t) ys := by
  induction xs generalizing t with
  | nil => rfl
  | cons n rest ih => rw [List.cons_append, cuesFrom, cuesFrom, ih, List.append_assoc]; rfl

namespace SyncTable

theorem isEmpty_iff (t : SyncTable) : t.isEmpty = true ↔ ∀ r, t.operations.find? r = none := by
  rw [isEmpty, SortedMap.isEmpty, List.isEmpty_iff]
  constructor
  · intro h r
    rw [SortedMap.find?_eq_none, h]
    exact fun _ he => nomatch he
  · intro h
    cases hentries : t.operations.entries with
    | nil => rfl
    | cons e rest =>
        have hmem : e ∈ t.operations.entries := hentries ▸ List.mem_cons_self
        exact absurd rfl (SortedMap.find?_eq_none.mp (h e.1) e hmem)

/-- A table that an operation joined is not empty. -/
theorem isEmpty_insert (t : SyncTable) (op : SyncOperation) : (t.insert op).isEmpty = false := by
  rw [← Bool.not_eq_true, isEmpty_iff]
  intro h
  have hfind := h op.ruleId
  rw [find?_insert, if_pos rfl] at hfind
  cases hfind

end SyncTable

namespace TrackerCourse

/-! ### How a course keeps time -/

/-- How a task stands that keeps time, in each of its phases; the time of the request that is still
to come is given. -/
inductive Standing (interval : Nat) (h : TrackerCourse) : TrackerPhase → Option Nat → Prop where
  | idle (hempty : h.tracker.table.isEmpty = true)
      (hsettled : Settled h.log) : Standing interval h .idle none
  | waiting (due : Nat) (hempty : h.tracker.table.isEmpty = false)
      (hsettled : Settled h.log)
      (hcue : ∃ c ∈ (cues h.log).getLast?, c.2.due? interval c.1 = some due)
      (hnow : h.tracker.cancelled = false → h.now ≤ due) :
      Standing interval h (.waiting due) (some due)
  | polling (hempty : h.tracker.table.isEmpty = false)
      (hopen : (requestTimes h.log).length = (replyTimes h.log).length + 1) :
      Standing interval h .polling none
  | stopped (pending : Option Nat) (hcancelled : h.tracker.cancelled = true)
      (hle : (requestTimes h.log).length ≤ (replyTimes h.log).length + 1) :
      Standing interval h .stopped pending

/-- A course keeps time: the requests it has made are those that its cues ask for, up to one that is
still to come. -/
structure KeepsTime (interval : Nat) (h : TrackerCourse) (pending : Option Nat) : Prop where
  period : h.tracker.interval = interval
  table : tableOf h.log = h.tracker.table
  standing : Standing interval h h.tracker.phase pending
  due : dueTimes interval (cues h.log) = requestTimes h.log ++ pending.toList

section
variable {interval : Nat} {h h' : TrackerCourse} {pending : Option Nat}

theorem cues_record (htable : tableOf h.log = h.tracker.table) (tracker : Tracker)
    (note : TrackerNote) :
    cues (h.record tracker note).log =
      cues h.log ++ ((note.cue? h.tracker.table).map (h.now, ·)).toList := by
  rw [record, cues, cuesFrom_append, ← tableOf, htable, cuesFrom, cuesFrom, List.append_nil, cues]

theorem requestTimes_record (tracker : Tracker) (note : TrackerNote) :
    requestTimes (h.record tracker note).log =
      requestTimes h.log ++ requestTimes [(h.now, note)] :=
  List.filterMap_append

theorem replyTimes_record (tracker : Tracker) (note : TrackerNote) :
    replyTimes (h.record tracker note).log = replyTimes h.log ++ replyTimes [(h.now, note)] :=
  List.filterMap_append

theorem Standing.length_le {phase : TrackerPhase} (hs : Standing interval h phase pending) :
    (requestTimes h.log).length ≤ (replyTimes h.log).length + 1 := by
  cases hs with
  | idle _ hsettled => exact Nat.le_succ_of_le (Nat.le_of_eq hsettled)
  | waiting _ _ hsettled => exact Nat.le_succ_of_le (Nat.le_of_eq hsettled)
  | polling _ hopen => exact Nat.le_of_eq hopen
  | stopped _ _ hle => exact hle

theorem Standing.now_le {phase : TrackerPhase} (hs : Standing interval h phase pending)
    (hcancelled : h.tracker.cancelled = false) : ∀ due ∈ pending, h.now ≤ due := by
  rintro due hdue
  cases hs with
  | idle | polling => cases hdue
  | waiting _ _ _ _ hnow => cases hdue; exact hnow hcancelled
  | stopped _ hstopped => rw [hcancelled] at hstopped; cases hstopped

/-- A task that was not cancelled waits for a reply if a request is outstanding, and else for
registrations. -/
theorem Standing.phase_eq {phase : TrackerPhase} (hs : Standing interval h phase pending)
    (hcancelled : h.tracker.cancelled = false) :
    (Settled h.log → phase = .idle ∨ ∃ due, phase = .waiting due) ∧
      (¬ Settled h.log → phase = .polling) := by
  cases hs with
  | idle _ hsettled => exact ⟨fun _ => .inl rfl, fun hopen => absurd hsettled hopen⟩
  | waiting due _ hsettled => exact ⟨fun _ => .inr ⟨due, rfl⟩, fun hopen => absurd hsettled hopen⟩
  | polling _ hopen =>
      refine ⟨fun hsettled => ?_, fun _ => rfl⟩
      rw [Settled, hopen] at hsettled
      exact absurd hsettled (Nat.ne_of_gt (Nat.lt_succ_self _))
  | stopped _ hstopped => rw [hcancelled] at hstopped; cases hstopped

/-- While the table is not empty and no request is outstanding, one is to come. -/
theorem Standing.pending_of_settled {phase : TrackerPhase}
    (hs : Standing interval h phase pending) (hcancelled : h.tracker.cancelled = false)
    (hempty : h.tracker.table.isEmpty = false) (hsettled : Settled h.log) :
    ∃ c ∈ (cues h.log).getLast?, ∃ due ≥ h.now, c.2.due? interval c.1 = some due := by
  cases hs with
  | idle hempty' => rw [hempty] at hempty'; cases hempty'
  | waiting due _ _ hcue hnow =>
      obtain ⟨c, hc, hdue⟩ := hcue
      exact ⟨c, hc, due, hnow hcancelled, hdue⟩
  | polling _ hopen =>
      rw [hsettled] at hopen
      exact absurd hopen (Nat.ne_of_lt (Nat.lt_succ_self _))
  | stopped _ hstopped => rw [hcancelled] at hstopped; cases hstopped

/-- Nothing that matters to the requests came about. -/
theorem KeepsTime.keep (hk : h.KeepsTime interval pending)
    (htable : tableOf h'.log = h'.tracker.table)
    (hperiod : h'.tracker.interval = h.tracker.interval)
    (hphase : h'.tracker.phase = h.tracker.phase)
    (hempty : h'.tracker.table.isEmpty = h.tracker.table.isEmpty)
    (hcues : cues h'.log = cues h.log) (hrequests : requestTimes h'.log = requestTimes h.log)
    (hreplies : replyTimes h'.log = replyTimes h.log)
    (hcancelled : h.tracker.cancelled = true → h'.tracker.cancelled = true)
    (hnow : ∀ due, h.tracker.phase = .waiting due → (h.tracker.cancelled = false → h.now ≤ due) →
      h'.tracker.cancelled = false → h'.now ≤ due) :
    h'.KeepsTime interval pending := by
  refine ⟨hperiod.trans hk.period, htable, ?_, by rw [hcues, hrequests, hk.due]⟩
  have hs := hk.standing
  rw [hphase]
  generalize h.tracker.phase = phase at hs hnow
  cases hs with
  | idle hempty' hsettled =>
      exact .idle (hempty.trans hempty') (by rwa [Settled, hrequests, hreplies])
  | waiting due hempty' hsettled hcue hnow' =>
      exact .waiting due (hempty.trans hempty') (by rwa [Settled, hrequests, hreplies])
        (by rwa [hcues]) (hnow due rfl hnow')
  | polling hempty' hopen =>
      exact .polling (hempty.trans hempty') (by rwa [hrequests, hreplies])
  | stopped _ hstopped hle =>
      exact .stopped pending (hcancelled hstopped) (by rwa [hrequests, hreplies])

/-- A note that is no cue, no request and no reply does not matter to the requests. -/
theorem KeepsTime.note (hk : h.KeepsTime interval pending) {tracker : Tracker} {note : TrackerNote}
    (htable : tableOf (h.record tracker note).log = tracker.table)
    (hperiod : tracker.interval = h.tracker.interval) (hphase : tracker.phase = h.tracker.phase)
    (hempty : tracker.table.isEmpty = h.tracker.table.isEmpty)
    (hcancelled : tracker.cancelled = h.tracker.cancelled)
    (hcue : note.cue? h.tracker.table = none) (hrequest : requestTimes [(h.now, note)] = [])
    (hreply : replyTimes [(h.now, note)] = []) :
    (h.record tracker note).KeepsTime interval pending := by
  refine hk.keep htable hperiod hphase hempty ?_ ?_ ?_ ?_ ?_
  · rw [cues_record hk.table, hcue]; exact List.append_nil _
  · rw [requestTimes_record, hrequest, List.append_nil]
  · rw [replyTimes_record, hreply, List.append_nil]
  · exact fun h => hcancelled.trans h
  · exact fun _ _ hnow h => hnow (hcancelled.symm.trans h)

theorem dueTimes_append (interval : Nat) (xs ys : List (Nat × Cue)) :
    dueTimes interval (xs ++ ys) = dueTimes interval xs ++ dueTimes interval ys :=
  List.filterMap_append

/-- A reply sets the timer again, or the task goes idle. -/
theorem KeepsTime.reply (hk : h.KeepsTime interval pending) (hphase : h.tracker.phase = .polling)
    {tracker : Tracker} {answer : Except MaintenanceError SyncSnapshot} {events : List Event}
    (htable : tracker.table = (TrackerNote.replied answer events).after h.tracker.table)
    (hperiod : tracker.interval = h.tracker.interval) :
    ∃ pending, (h.record (tracker.rearm h.now) (.replied answer events)).KeepsTime interval
      pending := by
  have hs := hk.standing
  rw [hphase] at hs
  obtain - | - | ⟨-, hopen⟩ := hs
  have hdue : dueTimes interval (cues h.log) = requestTimes h.log :=
    hk.due.trans (List.append_nil _)
  have htable' : tableOf (h.record (tracker.rearm h.now) (.replied answer events)).log =
      tracker.table := by
    rw [record, tableOf_concat, hk.table, htable]
  have hcues := cues_record hk.table (tracker.rearm h.now) (.replied answer events)
  have hrequests := requestTimes_record (h := h) (tracker.rearm h.now) (.replied answer events)
  have hreplies := replyTimes_record (h := h) (tracker.rearm h.now) (.replied answer events)
  rw [TrackerNote.cue?, ← htable] at hcues
  rw [show requestTimes [(h.now, .replied answer events)] = [] from rfl, List.append_nil]
    at hrequests
  have hsettled : Settled (h.record (tracker.rearm h.now) (.replied answer events)).log := by
    rw [Settled, hrequests, hreplies, hopen, List.length_append]; rfl
  cases hempty : tracker.table.isEmpty with
  | true =>
      rw [hempty, if_pos rfl] at hcues
      refine ⟨none, hperiod.trans hk.period, htable', ?_, ?_⟩
      · have hphase' : (tracker.rearm h.now).phase = .idle := by rw [Tracker.rearm, hempty]; rfl
        show Standing interval _ (tracker.rearm h.now).phase _
        rw [hphase']
        exact .idle hempty hsettled
      · rw [hcues, hrequests, dueTimes_append, hdue]; rfl
  | false =>
      rw [hempty, if_neg Bool.false_ne_true] at hcues
      refine ⟨some (h.now + interval), hperiod.trans hk.period, htable', ?_, ?_⟩
      · have hphase' : ((tracker.rearm h.now).phase) = .waiting (h.now + interval) := by
          rw [Tracker.rearm, hempty, hperiod, hk.period]; rfl
        show Standing interval _ (tracker.rearm h.now).phase _
        rw [hphase']
        refine .waiting _ hempty hsettled ?_ (fun _ => Nat.le_add_right _ _)
        exact ⟨(h.now, .answered), by rw [hcues]; exact List.getLast?_concat .., rfl⟩
      · rw [hcues, hrequests, dueTimes_append, hdue]; rfl

/-- A registration fills the empty table: the timer is set. -/
theorem KeepsTime.fill (hk : h.KeepsTime interval pending) (hphase : h.tracker.phase = .idle)
    (op : SyncOperation) (rest : List SyncOperation) :
    let tracker := Tracker.register { h.tracker with
      queue := rest, phase := .waiting (h.now + h.tracker.interval) } op
    (h.record tracker (.registered op)).KeepsTime interval (some (h.now + interval)) := by
  intro tracker
  have hs := hk.standing
  rw [hphase] at hs
  obtain ⟨hempty, hsettled⟩ | - | - := hs
  have hcues := cues_record hk.table tracker (.registered op)
  rw [TrackerNote.cue?, if_pos hempty] at hcues
  have hrequests : requestTimes (h.record tracker (.registered op)).log = requestTimes h.log :=
    (requestTimes_record ..).trans (List.append_nil _)
  have hreplies : replyTimes (h.record tracker (.registered op)).log = replyTimes h.log :=
    (replyTimes_record ..).trans (List.append_nil _)
  obtain rfl := hk.period
  refine ⟨rfl, ?_, .waiting _ ?_ ?_ ?_ (fun _ => Nat.le_add_right _ _), ?_⟩
  · rw [record, tableOf_concat, hk.table]; rfl
  · exact SyncTable.isEmpty_insert h.tracker.table op
  · rwa [Settled, hrequests, hreplies]
  · exact ⟨(h.now, .filled), by rw [hcues]; exact List.getLast?_concat .., rfl⟩
  · rw [hcues, hrequests, dueTimes_append, hk.due]; simp; rfl

/-- A registration joins others: the timer stays as it is. -/
theorem KeepsTime.join (hk : h.KeepsTime interval pending) {due : Nat}
    (hphase : h.tracker.phase = .waiting due) (op : SyncOperation) (rest : List SyncOperation) :
    let tracker := Tracker.register { h.tracker with queue := rest } op
    (h.record tracker (.registered op)).KeepsTime interval pending := by
  intro tracker
  have hs := hk.standing
  rw [hphase] at hs
  obtain - | ⟨_, hempty⟩ := hs
  have hempty' : tracker.table.isEmpty = false := SyncTable.isEmpty_insert h.tracker.table op
  refine hk.note ?_ rfl rfl (hempty'.trans hempty.symm) rfl (if_neg (by simp [hempty])) rfl rfl
  rw [record, tableOf_concat, hk.table]
  rfl

/-- The request that was to come is made, at its time. -/
theorem KeepsTime.request (hk : h.KeepsTime interval pending) {due : Nat}
    (hphase : h.tracker.phase = .waiting due) (hcancelled : h.tracker.cancelled = false)
    (hdue : due ≤ h.now) :
    (h.record { h.tracker with phase := .polling } .requested).KeepsTime interval none := by
  have hs := hk.standing
  rw [hphase] at hs
  obtain - | ⟨_, hempty, hsettled, -, hnow⟩ := hs
  have heq : due = h.now := Nat.le_antisymm hdue (hnow hcancelled)
  have hcues : cues (h.record { h.tracker with phase := .polling } .requested).log = cues h.log :=
    (cues_record hk.table ..).trans (List.append_nil _)
  have hrequests : requestTimes (h.record { h.tracker with phase := .polling } .requested).log =
      requestTimes h.log ++ [h.now] := requestTimes_record ..
  have hreplies : replyTimes (h.record { h.tracker with phase := .polling } .requested).log =
      replyTimes h.log := (replyTimes_record ..).trans (List.append_nil _)
  refine ⟨hk.period, ?_, .polling hempty ?_, ?_⟩
  · rw [record, tableOf_concat, hk.table]; rfl
  · rw [hrequests, hreplies, List.length_append, hsettled]; rfl
  · rw [hcues, hrequests, hk.due, heq]; exact (List.append_nil _).symm

/-- **Every step goes on keeping time.** -/
theorem KeepsTime.step (hk : h.KeepsTime interval pending) (hs : Step h h') :
    ∃ pending, h'.KeepsTime interval pending := by
  have htable := hs.tableOf_log hk.table
  cases hs with
  | refuse => exact ⟨pending, hk⟩
  | accept op hkeys hphase => exact ⟨pending, hk.note htable rfl rfl rfl rfl rfl rfl rfl⟩
  | pass hturn =>
      refine ⟨pending, hk.keep htable rfl rfl rfl rfl rfl rfl id ?_⟩
      intro due hphase _ hcancelled
      exact (Tracker.lt_of_waiting hphase hcancelled hturn).2
  | shutdown =>
      exact ⟨pending, hk.keep htable rfl rfl rfl rfl rfl rfl (fun _ => rfl) (fun _ _ _ => nofun)⟩
  | stop hphase hcancelled =>
      refine ⟨pending, hk.period, htable, .stopped pending hcancelled ?_, ?_⟩
      · rw [requestTimes_record, replyTimes_record]
        simpa [requestTimes, replyTimes] using hk.standing.length_le
      · rw [cues_record hk.table, requestTimes_record]
        simpa [TrackerNote.cue?, requestTimes] using hk.due
  | fill op rest hphase hcancelled hqueue => exact ⟨_, hk.fill hphase op rest⟩
  | join op rest due hphase hcancelled hqueue => exact ⟨_, hk.join hphase op rest⟩
  | request due hphase hcancelled hqueue hdue =>
      exact ⟨_, hk.request hphase hcancelled hdue⟩
  | fail e hphase hcancelled => exact hk.reply hphase rfl rfl
  | apply s hphase hcancelled =>
      exact hk.reply hphase rfl rfl

/-- Before the present time, the requests are those that the cues ask for. -/
theorem KeepsTime.filter_requestTimes (hk : h.KeepsTime interval pending)
    (hcancelled : h.tracker.cancelled = false) {time : Nat} (htime : time ≤ h.now) :
    (requestTimes h.log).filter (· < time) =
      (dueTimes interval (cues h.log)).filter (· < time) := by
  have hpending : pending.toList.filter (· < time) = [] := by
    refine List.filter_eq_nil_iff.mpr (fun due hdue => ?_)
    have hle := hk.standing.now_le hcancelled due (Option.mem_toList.mp hdue)
    simpa using htime.trans hle
  rw [hk.due, List.filter_append, hpending, List.append_nil]

end

/-- Every course keeps time. -/
theorem keepsTime (interval : Nat) (actions : List TrackerAction) :
    ∃ pending, (of interval actions).KeepsTime interval pending := by
  refine step_induction (P := fun h => ∃ pending, h.KeepsTime interval pending) ?_ ?_ actions
  · exact ⟨none, rfl, rfl, .idle rfl rfl, rfl⟩
  · rintro h h' hs ⟨pending, hk⟩
    exact hk.step hs

/-- **Requests are made on time.** -/
theorem requests_on_time (interval : Nat) (actions : List TrackerAction) :
    let h := of interval actions
    (∀ before time after, h.log = before ++ (time, .requested) :: after →
      (tableOf before).isEmpty = false ∧ Settled before ∧
        ∃ c ∈ (cues before).getLast?, c.2.due? interval c.1 = some time) ∧
    (h.tracker.cancelled = false → (tableOf h.log).isEmpty = false → Settled h.log →
      ∃ c ∈ (cues h.log).getLast?, ∃ due ≥ h.now, c.2.due? interval c.1 = some due) ∧
    (∃ pending : Option Nat,
      dueTimes interval (cues h.log) = requestTimes h.log ++ pending.toList ∧
        (h.tracker.cancelled = false → ∀ due ∈ pending, h.now ≤ due)) ∧
    ∀ others,
      let g := of interval others
      h.tracker.cancelled = false → g.tracker.cancelled = false → cues g.log = cues h.log →
        ∀ time ≤ min h.now g.now,
          (requestTimes g.log).filter (· < time) = (requestTimes h.log).filter (· < time) := by
  intro h
  obtain ⟨pending, hk⟩ := keepsTime interval actions
  refine ⟨?_, ?_, ⟨pending, hk.due, hk.standing.now_le⟩, ?_⟩
  · intro before time after hlog
    obtain ⟨earlier, g, rfl, hs, hg⟩ := exists_step hlog
    obtain ⟨rfl, hcancelled, -, due, hdue, hphase⟩ := hs.of_requested hg
    obtain ⟨pending, hk⟩ := keepsTime interval earlier
    have hstanding := hk.standing
    rw [hphase] at hstanding
    obtain - | ⟨_, hempty, hsettled, ⟨c, hc, hcue⟩, hnow⟩ := hstanding
    refine ⟨by rwa [hk.table], hsettled, c, hc, ?_⟩
    rw [hcue, Nat.le_antisymm hdue (hnow hcancelled)]
  · intro hcancelled hempty hsettled
    rw [hk.table] at hempty
    exact hk.standing.pending_of_settled hcancelled hempty hsettled
  · intro others g hcancelled hcancelled' hcues time htime
    obtain ⟨pending', hk'⟩ := keepsTime interval others
    have htimes : dueTimes interval (cues g.log) = dueTimes interval (cues h.log) := by rw [hcues]
    rw [hk.filter_requestTimes hcancelled (htime.trans (Nat.min_le_left ..)),
      hk'.filter_requestTimes hcancelled' (htime.trans (Nat.min_le_right ..)), htimes]

/-- A rule that joins between two requests changes nothing about them. -/
theorem requests_of_two_rules :
    let op (rule : Int64) : SyncOperation := ⟨rule, [⟨⟨1, "shows"⟩, "Shows"⟩]⟩
    let later : List TrackerAction :=
      [.tick, .turn, .reply (.error .cancelled), .tick, .tick, .turn]
    let one : List TrackerAction := [.track (op 1), .turn, .tick] ++ later
    let two : List TrackerAction := [.track (op 1), .turn, .tick, .track (op 2), .turn] ++ later
    cues (of 2 two).log = cues (of 2 one).log ∧ requestTimes (of 2 one).log = [2, 4] ∧
      (requestTimes (of 2 two).log).filter (· < 4) =
        (requestTimes (of 2 one).log).filter (· < 4) := by
  intro op later one two
  have hcues : cues (of 2 two).log = cues (of 2 one).log := by decide
  have htimes : requestTimes (of 2 one).log = [2, 4] := by decide
  refine ⟨hcues, htimes, ?_⟩
  exact (requests_on_time 2 one).2.2.2 two (by decide) (by decide) hcues 4 (by decide)

end TrackerCourse

end MediaMonitor
