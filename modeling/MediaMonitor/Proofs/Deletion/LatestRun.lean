import MediaMonitor.Proofs.Deletion.Course

/-!
# What a coordinator says of its runs

A coordinator says whether a run is active, how far the deletion has come, and what the last outcome
was.  All of it is true of its runs at any time, whatever happens to them and in whatever order
(`Course.of_truthful`): a run is active just when the run started last is in flight and was not
cancelled, the progress is that of this run, and the last outcome is the one returned last.
-/

namespace MediaMonitor

/-- The outcome a run returned. -/
def RunEnd.outcome? : RunEnd → Option DeleteOutcome
  | .returned (.ok o) => some o
  | _ => none

namespace Course

/-- The number of the run started last. -/
def latest? (h : Course) : Option Nat := h.started.getLast?.map (·.number)

/-- The last progress a run applied; before that, nothing of what was asked for is done. -/
def progressOf (h : Course) (s : StartedRun) : DeleteProgress :=
  ((h.told.filter (·.1 = s.number)).getLast?.map (·.2)).getD
    (.zero (.ofNat s.ids.eraseDups.length))

/-- The outcome returned last. -/
def lastReturned? (h : Course) : Option DeleteOutcome :=
  (h.ended.filterMap (·.2.outcome?)).getLast?

/-- The progress and the last outcome of the state are those of the course. -/
structure Reported (h : Course) : Prop where
  told_le : ∀ x ∈ h.told, x.1 ≤ h.state.generation
  progress : h.state.progress = h.started.getLast?.map h.progressOf
  lastOutcome : h.state.lastOutcome = h.lastReturned?

theorem reported_init : Reported {} := ⟨nofun, rfl, rfl⟩

section
variable {h : Course}

/-- Where nothing is told and no run gets started, the progress is still that of the course. -/
theorem progress_keep (hr : h.state.progress = h.started.getLast?.map h.progressOf) {news : News}
    (hst : news.started = none) (ht : news.told = none)
    (hp : news.state.progress = h.state.progress) :
    (h.record news).state.progress =
      (h.record news).started.getLast?.map (h.record news).progressOf := by
  have htold : (h.record news).told = h.told := by simp [record, ht]
  have hstarted : (h.record news).started = h.started := by simp [record, hst]
  unfold progressOf at hr ⊢
  rw [htold, hstarted, ← hr]
  exact hp

/-- Where no outcome is returned, the last outcome is still that of the course. -/
theorem lastOutcome_keep (hr : h.state.lastOutcome = h.lastReturned?) {news : News}
    (he : news.ended.bind (·.2.outcome?) = none)
    (hl : news.state.lastOutcome = h.state.lastOutcome) :
    (h.record news).state.lastOutcome = (h.record news).lastReturned? := by
  have hnone : news.ended.toList.filterMap (·.2.outcome?) = [] := by
    cases hx : news.ended with
    | none => rfl
    | some x => rw [hx] at he; exact List.filterMap_cons_none he
  simp only [record, lastReturned?, List.filterMap_append, hnone, List.append_nil, hl]
  exact hr

theorem told_le_keep (hr : ∀ x ∈ h.told, x.1 ≤ h.state.generation) {news : News}
    (ht : ∀ x ∈ news.told, x.1 ≤ news.state.generation)
    (hg : h.state.generation ≤ news.state.generation) :
    ∀ x ∈ (h.record news).told, x.1 ≤ (h.record news).state.generation := by
  intro x hx
  rcases List.mem_append.mp hx with hx | hx
  · exact Nat.le_trans (hr x hx) hg
  · exact ht x (Option.mem_toList.mp hx)

/-- Where no run gets started, nothing is told and no outcome is returned, the state has nothing
else to report. -/
theorem Reported.keep (hr : h.Reported) {news : News} (hst : news.started = none)
    (ht : news.told = none) (he : news.ended.bind (·.2.outcome?) = none)
    (hg : news.state.generation = h.state.generation)
    (hp : news.state.progress = h.state.progress)
    (hl : news.state.lastOutcome = h.state.lastOutcome) : Reported (h.record news) where
  told_le := told_le_keep hr.told_le (by rw [ht]; rintro _ ⟨⟩) (Nat.le_of_eq hg.symm)
  progress := progress_keep hr.progress hst ht hp
  lastOutcome := lastOutcome_keep hr.lastOutcome he hl

/-- A move keeps what is reported true. -/
theorem Reported.record {a : CoordinatorAction} {news : News} (hr : h.Reported)
    (ha : h.Accounted) (hc : h.state.Coherent) (hm : Coordinator.Move h.state a news) :
    (h.record news).Reported := by
  cases hm with
  | still => exact hr.keep rfl rfl rfl rfl rfl rfl
  | cancel => exact hr.keep rfl rfl rfl rfl rfl rfl
  | turn => exact hr.keep rfl rfl rfl rfl rfl rfl
  | abort _ _ he =>
      refine hr.keep rfl rfl ?_ rfl rfl rfl
      rcases he with ⟨rfl, -⟩ | rfl <;> rfl
  | @start ruleId ids run _ hrun =>
      have hnum : run.number = h.state.generation + 1 := by rw [hrun]
      have hreq : run.requested = .ofNat ids.eraseDups.length := by
        rw [hrun, Coordinator.distinct_eq]
      -- nothing was told by a run that did not exist
      have hnone : h.told.filter (·.1 = run.number) = [] := by
        refine List.filter_eq_nil_iff.mpr (fun x hx => ?_)
        have hle := hr.told_le x hx
        simp only [decide_eq_true_eq]
        omega
      refine ⟨told_le_keep hr.told_le (by rintro _ ⟨⟩) (by simp [Coordinator.launch, hnum]), ?_,
        lastOutcome_keep hr.lastOutcome rfl rfl⟩
      simp [Course.record, Coordinator.launch, progressOf, hnone, hreq]
  | @tell run p phase hrun hu =>
      -- a run that is not cancelled is the one started last
      have hnum := hc.latest hrun hu
      obtain ⟨s, hs, hsn⟩ := ha.getLast? (hnum ▸ hc.pos run hrun)
      refine ⟨told_le_keep hr.told_le ?_ (Nat.le_refl _), ?_,
        lastOutcome_keep hr.lastOutcome rfl rfl⟩
      · rintro x ⟨⟩
        exact hc.le run hrun
      · simp [Course.record, hs, progressOf, List.filter_append, hsn, hnum]
  | @finish run o hrun hu =>
      refine ⟨told_le_keep hr.told_le (by rintro _ ⟨⟩) (Nat.le_refl _),
        progress_keep hr.progress rfl rfl rfl, ?_⟩
      simp [Course.record, lastReturned?, RunEnd.outcome?]

/-! ### Runs that return no outcome any more -/

/-- A run in flight is cancelled or no longer the latest, or it has ended without an outcome. -/
def Stopped (h : Course) (n : Nat) : Prop :=
  (∃ run ∈ h.state.runs, run.number = n ∧ (run.cancelled = true ∨ h.latest? ≠ some n)) ∨
    ∃ e, (n, e) ∈ h.ended ∧ e.outcome? = none

/-- A run that got started has returned no outcome and is cancelled, as long as it is in flight. -/
structure Spent (h : Course) (n : Nat) : Prop where
  le : n ≤ h.state.generation
  cancelled : ∀ run ∈ h.state.runs, run.number = n → run.cancelled = true
  ended : ∀ o, (n, .returned (.ok o)) ∉ h.ended

theorem Accounted.latest?_eq (ha : h.Accounted) (hpos : 0 < h.state.generation) :
    h.latest? = some h.state.generation := by
  obtain ⟨s, hs, hn⟩ := ha.getLast? hpos
  rw [latest?, hs, Option.map_some, hn]

theorem Stopped.spent {n : Nat} (hs : h.Stopped n) (ha : h.Accounted) (hc : h.state.Coherent) :
    h.Spent n := by
  rcases hs with ⟨run, hr, rfl, hwhy⟩ | ⟨e, he, hnone⟩
  · refine ⟨hc.le run hr, ?_, ?_⟩
    · intro x hx hn
      rw [hc.eq_of_number hx hr hn]
      rcases hwhy with hu | hlatest
      · exact hu
      · refine hc.older run hr (fun hg => hlatest ?_)
        rw [ha.latest?_eq (hg ▸ hc.pos run hr), hg]
    · intro o ho
      exact ((ha.gone _).mp (List.mem_map_of_mem ho)).2.2 ⟨run, hr, rfl⟩
  · obtain ⟨-, hle, hnot⟩ := (ha.gone n).mp (List.mem_map_of_mem he)
    refine ⟨hle, fun x hx hn => absurd ⟨x, hx, hn⟩ hnot, ?_⟩
    intro o ho
    have h := List.inj_on_of_nodup_map ha.once he ho rfl
    cases h
    cases hnone

/-- A spent run stays so. -/
theorem Spent.record {n : Nat} {a : CoordinatorAction} {news : News} (hs : h.Spent n)
    (hm : Coordinator.Move h.state a news) : (h.record news).Spent n where
  le := Nat.le_trans hs.le hm.generation_le
  cancelled x hx hn := hm.cancelled hx (hn ▸ hs.le) fun y hy hyn => hs.cancelled y hy (hyn.trans hn)
  ended o ho := by
    rcases List.mem_append.mp ho with ho | ho
    · exact hs.ended o ho
    · obtain ⟨run, hr, hn, hu⟩ := hm.uncancelled_of_returned (Option.mem_toList.mp ho)
      rw [hs.cancelled run hr hn] at hu
      cases hu

end

/-! ### The coordinator and its runs -/

theorem reported (actions : List CoordinatorAction) : (of actions).Reported :=
  (induction (P := fun h => h.Accounted ∧ h.Reported) ⟨accounted_init, reported_init⟩
    (fun _ _ _ hc hm h => ⟨h.1.record hc hm, h.2.record h.1 hc hm⟩) actions).2

/-- What the coordinator says of its runs is true of them. -/
structure Truthful (h : Course) : Prop where
  /-- A run is active when the run started last is in flight and not cancelled. -/
  running : h.state.isRunning = true ↔
    ∃ run ∈ h.state.runs, h.latest? = some run.number ∧ run.cancelled = false
  /-- An older run in flight is cancelled. -/
  older : ∀ run ∈ h.state.runs, h.latest? ≠ some run.number → run.cancelled = true
  sole : ∀ x ∈ h.state.runs, ∀ y ∈ h.state.runs,
    x.cancelled = false → y.cancelled = false → x = y
  /-- The progress is that of the run started last. -/
  progress : h.state.progress = h.started.getLast?.map h.progressOf
  lastOutcome : h.state.lastOutcome = h.lastReturned?

/-- **Whatever happens to a coordinator, in whatever order, what it says of its runs is true**, and
a run that was cancelled, superseded or dropped never returns an outcome. -/
theorem of_truthful (actions : List CoordinatorAction) :
    (of actions).Truthful ∧
      ∀ n, (of actions).Stopped n → ∀ later o,
        (n, .returned (.ok o)) ∉ (of (actions ++ later)).ended := by
  have hc := coherent actions
  have ha := accounted actions
  have hr := reported actions
  have hlatest : ∀ run ∈ (of actions).state.runs,
      (of actions).latest? = some (of actions).state.generation := fun run hr =>
    ha.latest?_eq (Nat.lt_of_lt_of_le (hc.pos run hr) (hc.le run hr))
  refine ⟨⟨?_, ?_, ?_, hr.progress, hr.lastOutcome⟩, ?_⟩
  · rw [Coordinator.isRunning, Option.isSome_iff_exists]
    constructor
    · rintro ⟨n, hn⟩
      obtain ⟨run, hrun, rfl, hu⟩ := (hc.active n).mp hn
      exact ⟨run, hrun, by rw [hlatest run hrun, hc.latest hrun hu], hu⟩
    · rintro ⟨run, hrun, -, hu⟩
      exact ⟨run.number, (hc.active _).mpr ⟨run, hrun, rfl, hu⟩⟩
  · intro run hrun hne
    refine hc.older run hrun (fun hg => hne ?_)
    rw [hlatest run hrun, hg]
  · intro x hx y hy hxu hyu
    exact hc.eq_of_number hx hy ((hc.latest hx hxu).trans (hc.latest hy hyu).symm)
  · intro n hs later o
    rw [of_append]
    have hspent : ((of actions).extend later).Spent n :=
      extend_induction (P := fun h => h.Spent n) hc (hs.spent ha hc)
        (fun _ _ _ _ hm h => h.record hm) later
    exact hspent.ended o

/-- A second run supersedes the first one, which returns no outcome from then on. -/
theorem superseded_run :
    let actions : List CoordinatorAction := [.start 1 [7, 7], .reply 1 (.ok ()), .start 1 [8, 9]]
    (of actions).Stopped 1 ∧ (of actions).Truthful ∧
      ∀ later o, (1, .returned (.ok o)) ∉ (of (actions ++ later)).ended := by
  intro actions
  have h : (of actions).Stopped 1 :=
    .inl ⟨{ number := 1, ruleId := 1, requested := 1, phase := .reading {}, cancelled := true },
      by decide, rfl, .inl rfl⟩
  exact ⟨h, (of_truthful actions).1, (of_truthful actions).2 1 h⟩

end Course

end MediaMonitor
