import MediaMonitor.Proofs.Deletion.Course
import MediaMonitor.Proofs.RunId

/-!
# The events of a run

The events that carry the id of a run tell its whole story: that it got started, how it came along,
and how it ended (`Course.events_of_runs`).  They can be told apart from those of other runs, since
no two runs have the same id.
-/

namespace MediaMonitor

/-- The id of the run an event is about. -/
def Event.runId? : Event → Option String
  | .deletion (.started id ..) => some id
  | .deletion (.progress id _) => some id
  | .deletion (.finished id ..) => some id
  | .deletion (.aborted id) => some id
  | _ => none

/-- The events about a run. -/
def eventsAbout (n : Nat) (events : List Event) : List Event :=
  events.filter (·.runId? = some (RunId.mk n).text)

namespace StartedRun

def id (s : StartedRun) : String := (RunId.mk s.number).text

/-- A run got started, for so many distinct ids. -/
def opening (s : StartedRun) : Event :=
  .deletion (.started s.id s.ruleId (.ofNat s.ids.eraseDups.length))

/-- A run came along. -/
def report (s : StartedRun) (p : DeleteProgress) : Event := .deletion (.progress s.id p)

/-- A run ended. -/
def closing (s : StartedRun) : RunEnd → Event
  | .returned (.ok o) => .deletion (.finished s.id o.kind o.message)
  | .returned (.error _) => .deletion (.aborted s.id)
  | .dropped => .deletion (.aborted s.id)

/-- What is told behind the end of a run: something may have changed. -/
def aftermath (s : StartedRun) (o : DeleteOutcome) : List Event :=
  if o.needsRefresh then
    [.library (.selectionCleared s.ruleId), .library (.candidatesStale s.ruleId)]
  else []

end StartedRun

/-! ### Events about one run -/

section
variable {n m : Nat} {x : Event}

theorem eventsAbout_append (n : Nat) (xs ys : List Event) :
    eventsAbout n (xs ++ ys) = eventsAbout n xs ++ eventsAbout n ys :=
  List.filter_append ..

/-- An event about one run is about no other. -/
theorem eventsAbout_cons (h : x.runId? = some (RunId.mk m).text) (n : Nat) (rest : List Event) :
    eventsAbout n (x :: rest) = if m = n then x :: eventsAbout n rest else eventsAbout n rest := by
  simp only [eventsAbout]
  rw [List.filter_cons, h]
  by_cases hn : m = n
  · rw [if_pos hn, if_pos (by rw [hn]; exact decide_eq_true rfl)]
  · have hne : some (RunId.mk m).text ≠ some (RunId.mk n).text := fun h =>
      hn (RunId.mk.inj (RunId.text_injective (Option.some.inj h)))
    rw [if_neg hn, if_neg (by simpa using hne)]

/-- The events of a finished run but the first are about no run. -/
theorem eventsAbout_finish (run : DeletionRun) (o : DeleteOutcome) (n : Nat) :
    eventsAbout n (Coordinator.finishEvents run o) =
      if run.number = n then [.deletion (.finished run.id o.kind o.message)] else [] := by
  have hrest : eventsAbout n (if o.needsRefresh then
      [.library (.selectionCleared run.ruleId), .library (.candidatesStale run.ruleId)]
      else []) = [] := by
    split <;> rfl
  rw [Coordinator.finishEvents, eventsAbout_cons rfl n, hrest]

/-- What is out of date is told behind the end of a run only. -/
theorem Coordinator.Move.head?_events {c : Coordinator} {a : CoordinatorAction} {news : News}
    (hm : Coordinator.Move c a news) (e : LibraryEvent) :
    news.events.head? ≠ some (.library e) := by
  cases hm <;> nofun

/-- Of a run that is in flight neither before nor after, nothing is told. -/
theorem Coordinator.Move.events_other {c : Coordinator} {a : CoordinatorAction} {news : News}
    (hm : Coordinator.Move c a news) (hbefore : ¬ c.InFlight n)
    (hafter : ¬ news.state.InFlight n) : eventsAbout n news.events = [] := by
  cases hm with
  | still | cancel | turn => rfl
  | @start _ _ run =>
      have hne : run.number ≠ n := fun h => hafter (inFlight_launch.mpr (.inr h.symm))
      rw [eventsAbout_cons (m := run.number) rfl n, if_neg hne]; rfl
  | @tell run _ _ hr =>
      rw [eventsAbout_cons (m := run.number) rfl n, if_neg (fun h => hbefore ⟨run, hr, h⟩)]; rfl
  | @finish run o hr =>
      rw [eventsAbout_finish, if_neg (fun h => hbefore ⟨run, hr, h⟩)]
  | @abort _ run e hr =>
      rw [eventsAbout_cons (m := run.number) rfl n, if_neg (fun h => hbefore ⟨run, hr, h⟩)]; rfl

end

namespace Course

/-! ### The story of a run -/

/-- The story of a run in flight: it got started, and how it came along so far. -/
structure Underway (h : Course) (s : StartedRun) (run : DeletionRun) : Prop where
  ruleId : run.ruleId = s.ruleId
  events : ∃ ps : List DeleteProgress,
    eventsAbout s.number h.events = s.opening :: ps.map s.report

/-- The story of a run that has ended: it got started, how it came along, and how it ended.  An
outcome is told with what may have changed right behind it. -/
structure Concluded (h : Course) (s : StartedRun) (e : RunEnd) : Prop where
  events : ∃ ps : List DeleteProgress,
    eventsAbout s.number h.events = s.opening :: ps.map s.report ++ [s.closing e]
  error : ∀ err, e = .returned (.error err) → err = .cancelled
  outcome : ∀ o, e = .returned (.ok o) → ∃ before after,
    h.events = before ++ s.closing e :: s.aftermath o ++ after ∧
      ∀ x, after.head? ≠ some (.library x)

/-- The events tell the stories of all runs. -/
structure Narrated (h : Course) : Prop where
  fresh : ∀ n, h.state.generation < n → eventsAbout n h.events = []
  flight : ∀ s ∈ h.started, ∀ run ∈ h.state.runs, run.number = s.number → h.Underway s run
  gone : ∀ s ∈ h.started, ∀ e, (s.number, e) ∈ h.ended → h.Concluded s e

theorem narrated_init : Narrated {} := ⟨fun _ _ => rfl, nofun, nofun⟩

section
variable {h : Course} {s : StartedRun} {e : RunEnd} {run : DeletionRun} {news : News}
  {a : CoordinatorAction}

theorem eventsAbout_record (h : Course) (news : News) (n : Nat) :
    eventsAbout n (h.record news).events = eventsAbout n h.events ++ eventsAbout n news.events :=
  eventsAbout_append ..

/-- Nothing is added to a story by events that are not about the run. -/
theorem Underway.keep (hu : h.Underway s run) {x : DeletionRun} (hx : x.ruleId = run.ruleId)
    (hev : eventsAbout s.number news.events = []) : (h.record news).Underway s x where
  ruleId := hx.trans hu.ruleId
  events := by rw [eventsAbout_record, hev, List.append_nil]; exact hu.events

/-- A progress is added to the story of the run that tells of it. -/
theorem Underway.tell (hu : h.Underway s run) {x : DeletionRun} (hx : x.ruleId = run.ruleId)
    {p : DeleteProgress} (hev : eventsAbout s.number news.events = [s.report p]) :
    (h.record news).Underway s x where
  ruleId := hx.trans hu.ruleId
  events := by
    obtain ⟨ps, hps⟩ := hu.events
    exact ⟨ps ++ [p], by rw [eventsAbout_record, hps, hev]; simp⟩

/-- The last event about a run concludes its story. -/
theorem Underway.conclude (hu : h.Underway s run)
    (hev : eventsAbout s.number news.events = [s.closing e])
    (herr : ∀ err, e = .returned (.error err) → err = .cancelled)
    (hout : ∀ o, e = .returned (.ok o) → news.events = s.closing e :: s.aftermath o) :
    (h.record news).Concluded s e where
  events := by
    obtain ⟨ps, hps⟩ := hu.events
    exact ⟨ps, by rw [eventsAbout_record, hps, hev]⟩
  error := herr
  outcome o ho := ⟨h.events, [], by simp [record, hout o ho], nofun⟩

theorem Concluded.keep (hd : h.Concluded s e) (hev : eventsAbout s.number news.events = [])
    (hhead : ∀ x, news.events.head? ≠ some (.library x)) : (h.record news).Concluded s e where
  events := by rw [eventsAbout_record, hev, List.append_nil]; exact hd.events
  error := hd.error
  outcome o ho := by
    obtain ⟨before, after, hsplit, hafter⟩ := hd.outcome o ho
    refine ⟨before, after ++ news.events, ?_, ?_⟩
    · simp only [record, hsplit, List.append_assoc]
    · intro x
      cases after with
      | nil => exact hhead x
      | cons y rest => exact hafter x

/-- A run that got started is numbered up to the latest one. -/
theorem Accounted.number_le (ha : h.Accounted) (hs : s ∈ h.started) :
    0 < s.number ∧ s.number ≤ h.state.generation := by
  have hm := List.mem_map_of_mem (f := (·.number)) hs
  rw [ha.numbers, List.mem_range'_1] at hm
  omega

theorem Narrated.fresh_record (hn : h.Narrated) (hc : h.state.Coherent)
    (hm : Coordinator.Move h.state a news) (n : Nat) (hlt : news.state.generation < n) :
    eventsAbout n (h.record news).events = [] := by
  have hlt' := Nat.lt_of_le_of_lt hm.generation_le hlt
  have hbefore : ¬ h.state.InFlight n := by
    rintro ⟨x, hx, rfl⟩; exact absurd (hc.le x hx) (Nat.not_le.mpr hlt')
  have hafter : ¬ news.state.InFlight n := by
    rintro ⟨x, hx, rfl⟩; exact absurd ((hm.coherent hc).le x hx) (Nat.not_le.mpr hlt)
  rw [eventsAbout_record, hn.fresh n hlt', hm.events_other hbefore hafter]
  rfl

/-- The story of a run that has ended is over. -/
theorem Narrated.gone_keep (hn : h.Narrated) (ha : h.Accounted)
    (hm : Coordinator.Move h.state a news) (hs : s ∈ h.started)
    (he : (s.number, e) ∈ h.ended) : (h.record news).Concluded s e := by
  obtain ⟨-, hle, hnot⟩ := (ha.gone s.number).mp (List.mem_map_of_mem he)
  refine (hn.gone s hs e he).keep (hm.events_other hnot fun hin => ?_) hm.head?_events
  rcases hm.inFlight hin with h | h
  · exact hnot h
  · omega

/-- A run that gets started has its first event, and the others in flight have none. -/
theorem Narrated.flight_launch (hn : h.Narrated) (ha : h.Accounted) (hc : h.state.Coherent)
    {x : DeletionRun} (hx : x.number = h.state.generation + 1) {new : StartedRun}
    (hnew : new.number = x.number) (hrule : x.ruleId = new.ruleId)
    (hstate : news.state = h.state.launch x) (hstarted : news.started = some new)
    (hev : news.events = [new.opening]) (hs : s ∈ (h.record news).started)
    (hr : run ∈ news.state.runs) (hnum : run.number = s.number) :
    (h.record news).Underway s run := by
  have habout : ∀ n, eventsAbout n news.events = if new.number = n then [new.opening] else [] :=
    fun n => by rw [hev]; exact eventsAbout_cons rfl n []
  rw [hstate] at hr
  rcases List.mem_append.mp hs with hs | hs
  · -- a run that got started before
    have hle := (ha.number_le hs).2
    rcases Coordinator.mem_launch.mp hr with hr | rfl
    · obtain ⟨y, hy, rfl⟩ := Coordinator.mem_allCancelled.mp hr
      refine (hn.flight s hs y hy hnum).keep rfl ?_
      rw [habout, if_neg (by omega)]
    · omega
  · -- the run that gets started now
    rw [hstarted] at hs
    cases List.mem_singleton.mp hs
    rcases Coordinator.mem_launch.mp hr with hr | rfl
    · have hle : run.number ≤ h.state.generation := hc.allCancelled.le run hr
      omega
    · refine ⟨hrule, [], ?_⟩
      rw [eventsAbout_record, hn.fresh _ (by omega), habout, if_pos rfl]
      rfl

theorem Narrated.flight_record (hn : h.Narrated) (ha : h.Accounted) (hc : h.state.Coherent)
    (hm : Coordinator.Move h.state a news) (hs : s ∈ (h.record news).started)
    (hr : run ∈ news.state.runs) (hnum : run.number = s.number) :
    (h.record news).Underway s run := by
  have hold : news.started = none → s ∈ h.started := fun hst => by
    simpa [record, hst] using hs
  cases hm with
  | still => exact (hn.flight s (hold rfl) run hr hnum).keep rfl rfl
  | cancel =>
      obtain ⟨x, hx, rfl⟩ := Coordinator.mem_allCancelled.mp hr
      exact (hn.flight s (hold rfl) x hx hnum).keep rfl rfl
  | turn =>
      obtain ⟨y, hy, hyn, hyr, -⟩ := Coordinator.exists_of_mem_turn hr
      exact (hn.flight s (hold rfl) y hy (hyn.trans hnum)).keep hyr.symm rfl
  | @start ruleId ids x _ hx =>
      refine hn.flight_launch ha hc (by rw [hx]) rfl (by rw [hx]) rfl rfl ?_ hs hr hnum
      rw [hx, Coordinator.distinct_eq]
      rfl
  | @tell x p phase hx =>
      obtain ⟨y, hy, hyn, hyr, -⟩ := Coordinator.exists_of_mem_turn hr
      have hway := hn.flight s (hold rfl) y hy (hyn.trans hnum)
      have hev : eventsAbout s.number [.deletion (.progress x.id p)] = _ :=
        eventsAbout_cons (m := x.number) rfl s.number []
      by_cases hxs : x.number = s.number
      · have hid : x.id = s.id := by rw [DeletionRun.id, StartedRun.id, hxs]
        exact hway.tell hyr.symm (hev.trans (by rw [if_pos hxs, hid]; rfl))
      · exact hway.keep hyr.symm (hev.trans (if_neg hxs))
  | @finish x o hx =>
      obtain ⟨hr, hne⟩ := Coordinator.mem_retire.mp hr
      refine (hn.flight s (hold rfl) run hr hnum).keep rfl ?_
      rw [eventsAbout_finish, if_neg (fun h => hne (hnum.trans h.symm))]
  | @abort _ x e hx =>
      obtain ⟨hr, hne⟩ := Coordinator.mem_retire.mp hr
      refine (hn.flight s (hold rfl) run hr hnum).keep rfl ?_
      rw [eventsAbout_cons (m := x.number) rfl, if_neg (fun h => hne (hnum.trans h.symm))]
      rfl

theorem Narrated.gone_record (hn : h.Narrated) (ha : h.Accounted)
    (hm : Coordinator.Move h.state a news) (hs : s ∈ (h.record news).started)
    (he : (s.number, e) ∈ (h.record news).ended) : (h.record news).Concluded s e := by
  have hold : news.started = none → s ∈ h.started := fun hst => by
    simpa [record, hst] using hs
  rcases List.mem_append.mp he with he | he
  · refine hn.gone_keep ha hm ?_ he
    -- a run that gets started now has not ended
    rcases List.mem_append.mp hs with hs | hs
    · exact hs
    · have hnum := hm.started_number (Option.mem_toList.mp hs)
      have hle := ((ha.gone _).mp (List.mem_map_of_mem he)).2.1
      have hle : s.number ≤ h.state.generation := hle
      omega
  · cases hm with
    | still | start | cancel | turn | tell => cases he
    | @finish x o hx hu =>
        obtain ⟨hnum, rfl⟩ : s.number = x.number ∧ e = .returned (.ok o) := by simpa using he
        have hid : x.id = s.id := by rw [DeletionRun.id, StartedRun.id, hnum]
        have hway := hn.flight s (hold rfl) x hx hnum.symm
        refine hway.conclude ?_ (by rintro err ⟨⟩) ?_
        · rw [eventsAbout_finish, if_pos hnum.symm, hid]; rfl
        · intro o' ho
          cases ho
          rw [Coordinator.finishEvents, hid, hway.ruleId]; rfl
    | @abort _ x e' hx _ hwhy =>
        obtain ⟨hnum, rfl⟩ : s.number = x.number ∧ e = e' := by simpa using he
        have hid : x.id = s.id := by rw [DeletionRun.id, StartedRun.id, hnum]
        have hway := hn.flight s (hold rfl) x hx hnum.symm
        refine hway.conclude ?_ ?_ ?_
        · rw [eventsAbout_cons (m := x.number) rfl, if_pos hnum.symm, hid]
          rcases hwhy with ⟨rfl, -⟩ | rfl <;> rfl
        · rintro err rfl
          rcases hwhy with ⟨h, -⟩ | h <;> cases h
          rfl
        · rintro o rfl
          rcases hwhy with ⟨h, -⟩ | h <;> cases h

/-- A move adds to the stories of the runs. -/
theorem Narrated.record (hn : h.Narrated) (ha : h.Accounted) (hc : h.state.Coherent)
    (hm : Coordinator.Move h.state a news) : (h.record news).Narrated where
  fresh := hn.fresh_record hc hm
  flight _ hs _ hr hnum := hn.flight_record ha hc hm hs hr hnum
  gone _ hs _ he := hn.gone_record ha hm hs he

theorem narrated (actions : List CoordinatorAction) : (of actions).Narrated :=
  (induction (P := fun h => h.Accounted ∧ h.Narrated) ⟨accounted_init, narrated_init⟩
    (fun _ _ _ hc hm h => ⟨h.1.record hc hm, h.2.record h.1 hc hm⟩) actions).2

end

/-- A start without ids is rejected and leaves everything as it was. -/
theorem record_news_start_nil (h : Course) (ruleId : Int64) :
    h.record (h.state.news (.start ruleId [])) = h := by
  simp [Coordinator.news, Coordinator.step, Coordinator.start_nil, Coordinator.distinct_eq_nil,
    News.ofEffect, record]

/-- **Every run that got started is in flight or has ended, once, and then the events about it tell
its whole story**: that it got started, how it came along, and last, how it ended.  A start without
ids has no events and leaves everything as it was. -/
theorem events_of_runs (actions : List CoordinatorAction) :
    (∀ s ∈ (of actions).started, ¬ (of actions).state.InFlight s.number →
      ∃ e, (of actions).ended.filter (·.1 = s.number) = [(s.number, e)] ∧
        (of actions).Concluded s e) ∧
    ∀ ruleId, of (actions ++ [.start ruleId []]) = of actions ∧
      (of actions).state.step (.start ruleId []) =
        { state := (of actions).state
          rejected := some (.validation "Select at least one candidate to delete") } := by
  have ha := accounted actions
  refine ⟨fun s hs hnot => ?_, fun ruleId => ⟨?_, ?_⟩⟩
  · obtain ⟨hpos, hle⟩ := ha.number_le hs
    obtain ⟨⟨_, e⟩, he, rfl⟩ := List.mem_map.mp ((ha.gone s.number).mpr ⟨hpos, hle, hnot⟩)
    exact ⟨e, ha.ended_filter he, (narrated actions).gone s hs e he⟩
  · rw [of_append]; exact record_news_start_nil _ _
  · exact Coordinator.start_nil _ ruleId (Coordinator.distinct_eq_nil.mpr rfl)

/-- A run that is superseded, and one that is dropped. -/
theorem events_of_two_runs :
    let actions : List CoordinatorAction :=
      [.start 1 [5, 5], .start 2 [6], .reply 2 (.ok ()), .notice 1, .drop 2]
    (of actions).started.map (·.number) = [1, 2] ∧
      ∀ s ∈ (of actions).started, ∃ e,
        (of actions).ended.filter (·.1 = s.number) = [(s.number, e)] ∧
          (of actions).Concluded s e := by
  intro actions
  refine ⟨by decide, fun s hs => (events_of_runs actions).1 s hs ?_⟩
  have hnone : (of actions).state.runs = [] := by decide
  rintro ⟨x, hx, -⟩
  rw [hnone] at hx
  cases hx

end Course

end MediaMonitor
