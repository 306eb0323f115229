import MediaMonitor.Proofs.Deletion.Move

/-!
# The course of a coordinator

A `Course` is a coordinator together with all that came about since its first state: the runs that
got started, the requests that were made, the progress that runs applied, the events, and how runs
ended.  `Course.of` goes through a list of actions.  What every move preserves holds of every course
(`Course.induction`).
-/

namespace MediaMonitor

/-- A coordinator, and all that came about on the way to its state. -/
structure Course where
  state : Coordinator := {}
  events : List Event := []
  submitted : List (Nat × Int64 × List Int64) := []
  started : List StartedRun := []
  told : List (Nat × DeleteProgress) := []
  ended : List (Nat × RunEnd) := []

namespace Course

/-- Goes on with what came about. -/
def record (h : Course) (news : News) : Course where
  state := news.state
  events := h.events ++ news.events
  submitted := h.submitted ++ news.submitted.toList
  started := h.started ++ news.started.toList
  told := h.told ++ news.told.toList
  ended := h.ended ++ news.ended.toList

/-- Goes on with actions. -/
def extend (h : Course) (actions : List CoordinatorAction) : Course :=
  actions.foldl (fun h a => h.record (h.state.news a)) h

/-- The course of a coordinator from its first state. -/
def of (actions : List CoordinatorAction) : Course := extend {} actions

theorem extend_append (h : Course) (xs ys : List CoordinatorAction) :
    h.extend (xs ++ ys) = (h.extend xs).extend ys :=
  List.foldl_append

theorem of_append (xs ys : List CoordinatorAction) : of (xs ++ ys) = (of xs).extend ys :=
  extend_append {} xs ys

/-- What every move preserves is preserved by every course. -/
theorem extend_induction {P : Course → Prop} {h : Course} (hc : h.state.Coherent) (hp : P h)
    (hstep : ∀ (h : Course) (a : CoordinatorAction) (news : News), h.state.Coherent →
      Coordinator.Move h.state a news → P h → P (h.record news))
    (actions : List CoordinatorAction) : P (h.extend actions) := by
  induction actions generalizing h with
  | nil => exact hp
  | cons a rest ih =>
      have hm := Coordinator.move_news hc a
      exact ih (h := h.record (h.state.news a)) (hm.coherent hc) (hstep h a _ hc hm hp)

/-- **What holds at first and is preserved by every move holds of every course.** -/
theorem induction {P : Course → Prop} (hp : P {})
    (hstep : ∀ (h : Course) (a : CoordinatorAction) (news : News), h.state.Coherent →
      Coordinator.Move h.state a news → P h → P (h.record news))
    (actions : List CoordinatorAction) : P (of actions) :=
  extend_induction Coordinator.coherent_init hp hstep actions

/-- Every state that can be reached is coherent. -/
theorem coherent (actions : List CoordinatorAction) : (of actions).state.Coherent :=
  induction (P := fun h => h.state.Coherent) Coordinator.coherent_init
    (fun _ _ _ hc hm _ => hm.coherent hc) actions

/-! ### Accounts of the runs -/

/-- In a list of entries with numbers of their own, each is the only one of its number. -/
theorem filter_eq_singleton {β : Type} {l : List (Nat × β)} {n : Nat} {b : β}
    (hl : (l.map (·.1)).Nodup) (h : (n, b) ∈ l) : l.filter (·.1 = n) = [(n, b)] := by
  induction l with
  | nil => cases h
  | cons x rest ih =>
      obtain ⟨hx, hrest⟩ := List.nodup_cons.mp hl
      rcases List.mem_cons.mp h with rfl | h
      · have hnone : rest.filter (·.1 = n) = [] := by
          refine List.filter_eq_nil_iff.mpr (fun y hy hyn => hx ?_)
          exact List.mem_map.mpr ⟨y, hy, of_decide_eq_true hyn⟩
        rw [List.filter_cons_of_pos (by simp), hnone]
      · have hne : x.1 ≠ n := fun e => hx (List.mem_map.mpr ⟨_, h, e.symm⟩)
        rw [List.filter_cons_of_neg (by simpa using hne), ih hrest h]

/-- The runs that got started are numbered from 1 on, each with a request of its own, and each is
either in flight or has ended, once. -/
structure Accounted (h : Course) : Prop where
  numbers : h.started.map (·.number) = List.range' 1 h.state.generation
  submitted : h.submitted =
    h.started.map (fun s => (s.number, s.ruleId, Coordinator.distinct s.ids))
  gone : ∀ n, n ∈ h.ended.map (·.1) ↔
    0 < n ∧ n ≤ h.state.generation ∧ ¬ h.state.InFlight n
  once : (h.ended.map (·.1)).Nodup

theorem accounted_init : Accounted {} where
  numbers := rfl
  submitted := rfl
  gone n := by simp; omega
  once := .nil

section
variable {h : Course}

/-- Where no run gets started or ends, the accounts stay the same. -/
theorem Accounted.keep (ha : h.Accounted) {news : News} (hsub : news.submitted = none)
    (hst : news.started = none) (he : news.ended = none)
    (hg : news.state.generation = h.state.generation)
    (hr : ∀ n, news.state.InFlight n ↔ h.state.InFlight n) : Accounted (h.record news) where
  numbers := by simpa [record, hst, hg] using ha.numbers
  submitted := by simpa [record, hst, hsub] using ha.submitted
  gone n := by simpa [record, he, hg, hr] using ha.gone n
  once := by simpa [record, he] using ha.once

/-- A run in flight ends. -/
theorem Accounted.retire (ha : h.Accounted) (hc : h.state.Coherent) {run : DeletionRun}
    (hr : run ∈ h.state.runs) {e : RunEnd} {news : News} (hsub : news.submitted = none)
    (hst : news.started = none) (he : news.ended = some (run.number, e))
    (hg : news.state.generation = h.state.generation)
    (hruns : ∀ n, news.state.InFlight n ↔ h.state.InFlight n ∧ n ≠ run.number) :
    Accounted (h.record news) where
  numbers := by simpa [record, hst, hg] using ha.numbers
  submitted := by simpa [record, hst, hsub] using ha.submitted
  gone n := by
    have hpos := hc.pos run hr
    have hle := hc.le run hr
    simp only [record, he, Option.toList_some, List.map_append, List.map_cons, List.map_nil,
      List.mem_append, List.mem_singleton, ha.gone, hg, hruns]
    -- only the number of the run itself changes sides
    by_cases hn : n = run.number
    · subst hn; simp [hpos, hle]
    · simp [hn]
  once := by
    simp only [record, he, Option.toList_some, List.map_append, List.map_cons, List.map_nil]
    refine List.nodup_append.mpr ⟨ha.once, List.nodup_singleton _, ?_⟩
    rintro n hn m hm rfl
    rw [List.mem_singleton.mp hm] at hn
    exact ((ha.gone _).mp hn).2.2 ⟨run, hr, rfl⟩

/-- Another run gets started. -/
theorem Accounted.launch (ha : h.Accounted) (hc : h.state.Coherent) {run : DeletionRun}
    (hn : run.number = h.state.generation + 1) (ids : List Int64) (events : List Event) :
    Accounted (h.record
      { state := h.state.launch run
        events := events
        submitted := some (run.number, run.ruleId, Coordinator.distinct ids)
        started := some ⟨run.number, run.ruleId, ids⟩ }) where
  numbers := by
    simp only [record, Option.toList_some, List.map_append, List.map_cons, List.map_nil,
      Coordinator.launch, ha.numbers, hn, List.range'_1_concat]
    rw [Nat.add_comm]
  submitted := by simp [record, ha.submitted]
  gone n := by
    simp only [record, Option.toList_none, List.append_nil, ha.gone, Coordinator.inFlight_launch]
    have hfresh : h.state.InFlight n → n ≤ h.state.generation := by
      rintro ⟨x, hx, rfl⟩; exact hc.le x hx
    have hg : (h.state.launch run).generation = h.state.generation + 1 := hn
    rw [hg, hn]
    constructor
    · rintro ⟨h₁, h₂, h₃⟩
      exact ⟨h₁, by omega, by rintro (h₄ | h₄); exacts [h₃ h₄, by omega]⟩
    · rintro ⟨h₁, h₂, h₃⟩
      exact ⟨h₁, by by_contra h₄; exact h₃ (.inr (by omega)), fun h₄ => h₃ (.inl h₄)⟩
  once := by simpa [record] using ha.once

/-- A move keeps the accounts. -/
theorem Accounted.record {a : CoordinatorAction} {news : News} (ha : h.Accounted)
    (hc : h.state.Coherent) (hm : Coordinator.Move h.state a news) : (h.record news).Accounted := by
  cases hm with
  | still => exact ha.keep rfl rfl rfl rfl (fun _ => .rfl)
  | start _ hr => subst hr; exact ha.launch hc rfl _ _
  | cancel => exact ha.keep rfl rfl rfl rfl (fun _ => Coordinator.inFlight_allCancelled)
  | turn => exact ha.keep rfl rfl rfl rfl (fun _ => Coordinator.inFlight_turn)
  | tell => exact ha.keep rfl rfl rfl rfl (fun _ => Coordinator.inFlight_turn)
  | finish hr =>
      exact ha.retire hc hr rfl rfl rfl rfl (fun _ => Coordinator.inFlight_retire)
  | abort hr =>
      exact ha.retire hc hr rfl rfl rfl rfl (fun _ => Coordinator.inFlight_retire)

/-- A run ends once. -/
theorem Accounted.ended_filter (ha : h.Accounted) {n : Nat} {e : RunEnd} (he : (n, e) ∈ h.ended) :
    h.ended.filter (·.1 = n) = [(n, e)] :=
  filter_eq_singleton ha.once he

/-- The run started last has the latest number. -/
theorem Accounted.getLast? (ha : h.Accounted) (hpos : 0 < h.state.generation) :
    ∃ s, h.started.getLast? = some s ∧ s.number = h.state.generation := by
  have hlast : h.started.getLast?.map (·.number) = some h.state.generation := by
    rw [← List.getLast?_map, ha.numbers, List.getLast?_range', if_neg (by omega)]
    congr 1
    omega
  exact Option.map_eq_some_iff.mp hlast

/-- **Every run that got started is accounted for.** -/
theorem accounted (actions : List CoordinatorAction) : (of actions).Accounted :=
  induction accounted_init (fun _ _ _ hc hm ha => ha.record hc hm) actions

end

end Course

end MediaMonitor
