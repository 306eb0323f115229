import Mathlib.Data.List.Nodup
import MediaMonitor.Deletion.Coordinator

/-!
# Coherent states of a coordinator

In a coherent state (`Coordinator.Coherent`) the number of the latest run, the slot, and the numbers
and the cancellations of the runs in flight agree.  There, cancelling the active run cancels all of
them (`Coherent.cancelActive_eq`), and a run that ends takes nothing but itself and its slot away
(`Coherent.release_eq`).  What happens to a coordinator comes down to four changes of its runs, and
each of them keeps the state coherent.
-/

namespace MediaMonitor

/-- A read in progress has not stopped. -/
def RunPhase.Live : RunPhase → Prop
  | .reading r => r.stopped = false
  | _ => True

namespace Coordinator

/-- The runs in flight have numbers of their own, up to that of the run started last; all but that
one are cancelled; and the slot is that of the run that is not cancelled. -/
structure Coherent (c : Coordinator) : Prop where
  nodup : (c.runs.map (·.number)).Nodup
  pos : ∀ run ∈ c.runs, 0 < run.number
  le : ∀ run ∈ c.runs, run.number ≤ c.generation
  older : ∀ run ∈ c.runs, run.number ≠ c.generation → run.cancelled = true
  active : ∀ n, c.active = some n ↔ ∃ run ∈ c.runs, run.number = n ∧ run.cancelled = false
  live : ∀ run ∈ c.runs, run.phase.Live

theorem coherent_init : Coherent {} where
  nodup := .nil
  pos _ h := nomatch h
  le _ h := nomatch h
  older _ h := nomatch h
  active _ := ⟨nofun, fun ⟨_, h, _⟩ => nomatch h⟩
  live _ h := nomatch h

/-- Every run is cancelled. -/
def allCancelled (c : Coordinator) : Coordinator :=
  { c with active := none, runs := c.runs.map (fun run => { run with cancelled := true }) }

/-- A run is added that takes the slot from the others. -/
def launch (c : Coordinator) (run : DeletionRun) : Coordinator :=
  { c.allCancelled with
    generation := run.number
    active := some run.number
    progress := some (.zero run.requested)
    runs := c.allCancelled.runs ++ [run] }

/-- A run comes to another phase. -/
def turn (c : Coordinator) (n : Nat) (phase : RunPhase) : Coordinator :=
  c.update n (fun run => { run with phase := phase })

/-- A run is taken out of flight; the slot is freed when it is the run's own. -/
def retire (c : Coordinator) (n : Nat) : Coordinator :=
  { c.remove n with active := if c.active = some n then none else c.active }

section
variable {c : Coordinator} {run : DeletionRun} {n : Nat} {phase : RunPhase}

theorem mem_allCancelled :
    run ∈ c.allCancelled.runs ↔ ∃ x ∈ c.runs, { x with cancelled := true } = run := by
  simp [allCancelled]

theorem mem_launch {x : DeletionRun} :
    x ∈ (c.launch run).runs ↔ x ∈ c.allCancelled.runs ∨ x = run := by
  simp [launch]

theorem mem_turn : run ∈ (c.turn n phase).runs ↔
    (∃ x ∈ c.runs, x.number = n ∧ { x with phase := phase } = run) ∨
      (run ∈ c.runs ∧ run.number ≠ n) := by
  simp only [turn, update, List.mem_map]
  constructor
  · rintro ⟨x, hx, h⟩
    by_cases hn : x.number = n
    · rw [if_pos hn] at h; exact .inl ⟨x, hx, hn, h⟩
    · rw [if_neg hn] at h; subst h; exact .inr ⟨hx, hn⟩
  · rintro (⟨x, hx, hn, h⟩ | ⟨h, hn⟩)
    · exact ⟨x, hx, by rw [if_pos hn]; exact h⟩
    · exact ⟨run, h, if_neg hn⟩

/-- What a run is at is of no consequence to anything else of it. -/
theorem exists_of_mem_turn {x : DeletionRun}
    (h : x ∈ (c.turn n phase).runs) :
    ∃ y ∈ c.runs, y.number = x.number ∧ y.ruleId = x.ruleId ∧ y.cancelled = x.cancelled ∧
      (y.phase = x.phase ∨ phase = x.phase) := by
  rcases mem_turn.mp h with ⟨y, hy, -, rfl⟩ | ⟨hx, -⟩
  · exact ⟨y, hy, rfl, rfl, rfl, .inr rfl⟩
  · exact ⟨x, hx, rfl, rfl, rfl, .inl rfl⟩

theorem exists_mem_turn (n : Nat) (phase : RunPhase) {y : DeletionRun} (h : y ∈ c.runs) :
    ∃ x ∈ (c.turn n phase).runs, x.number = y.number ∧ x.cancelled = y.cancelled := by
  by_cases hn : y.number = n
  · exact ⟨{ y with phase := phase }, mem_turn.mpr (.inl ⟨y, h, hn, rfl⟩), rfl, rfl⟩
  · exact ⟨y, mem_turn.mpr (.inr ⟨h, hn⟩), rfl, rfl⟩

theorem mem_retire : run ∈ (c.retire n).runs ↔ run ∈ c.runs ∧ run.number ≠ n := by
  simp [retire, remove]

/-- A run of this number is in flight. -/
def InFlight (c : Coordinator) (n : Nat) : Prop := ∃ run ∈ c.runs, run.number = n

theorem inFlight_allCancelled : c.allCancelled.InFlight n ↔ c.InFlight n := by
  simp [InFlight, allCancelled]

theorem inFlight_launch : (c.launch run).InFlight n ↔ c.InFlight n ∨ n = run.number := by
  rw [← inFlight_allCancelled (c := c)]
  constructor
  · rintro ⟨x, hx, rfl⟩
    rcases mem_launch.mp hx with hx | rfl
    · exact .inl ⟨x, hx, rfl⟩
    · exact .inr rfl
  · rintro (⟨x, hx, rfl⟩ | rfl)
    · exact ⟨x, mem_launch.mpr (.inl hx), rfl⟩
    · exact ⟨run, mem_launch.mpr (.inr rfl), rfl⟩

theorem inFlight_turn {m : Nat} : (c.turn n phase).InFlight m ↔ c.InFlight m := by
  constructor
  · rintro ⟨x, hx, rfl⟩
    obtain ⟨y, hy, hn, -⟩ := exists_of_mem_turn hx
    exact ⟨y, hy, hn⟩
  · rintro ⟨y, hy, rfl⟩
    obtain ⟨x, hx, hn, -⟩ := exists_mem_turn n phase hy
    exact ⟨x, hx, hn⟩

theorem inFlight_retire {m : Nat} : (c.retire n).InFlight m ↔ c.InFlight m ∧ m ≠ n := by
  simp only [InFlight, mem_retire]
  constructor
  · rintro ⟨x, ⟨hx, hn⟩, rfl⟩; exact ⟨⟨x, hx, rfl⟩, hn⟩
  · rintro ⟨⟨x, hx, rfl⟩, hn⟩; exact ⟨x, ⟨hx, hn⟩, rfl⟩

theorem mem_of_run? (h : c.run? n = some run) : run ∈ c.runs ∧ run.number = n :=
  ⟨List.mem_of_find?_eq_some h, by simpa using List.find?_some h⟩

/-- Two runs in flight of one number are the same. -/
theorem Coherent.eq_of_number (hc : c.Coherent) {x y : DeletionRun} (hx : x ∈ c.runs)
    (hy : y ∈ c.runs) (h : x.number = y.number) : x = y :=
  List.inj_on_of_nodup_map hc.nodup hx hy h

theorem Coherent.run?_eq (hc : c.Coherent) (hr : run ∈ c.runs) :
    c.run? run.number = some run := by
  cases h : c.run? run.number with
  | none => simpa using List.find?_eq_none.mp h run hr
  | some x => rw [hc.eq_of_number hr (mem_of_run? h).1 (mem_of_run? h).2.symm]

theorem Coherent.open_of_reading (hc : c.Coherent) (hr : run ∈ c.runs) {r : Reading}
    (hp : run.phase = .reading r) : r.stopped = false := by
  simpa [hp, RunPhase.Live] using hc.live run hr

/-- A run that is not cancelled is the latest one. -/
theorem Coherent.latest (hc : c.Coherent) (hr : run ∈ c.runs) (hu : run.cancelled = false) :
    run.number = c.generation := by
  by_contra h
  rw [hc.older run hr h] at hu
  cases hu

/-- Without an active run, every run is cancelled. -/
theorem Coherent.cancelled_of_idle (hc : c.Coherent) (ha : c.active = none) (hr : run ∈ c.runs) :
    run.cancelled = true := by
  by_contra hu
  rw [(hc.active _).mpr ⟨run, hr, rfl, by simpa using hu⟩] at ha
  cases ha

/-- The active run is the only one that is not cancelled. -/
theorem Coherent.cancelActive_eq (hc : c.Coherent) : c.cancelActive = c.allCancelled := by
  cases ha : c.active with
  | none =>
      have hruns : c.runs.map (fun run => { run with cancelled := true }) = c.runs :=
        (List.map_congr_left (fun run hr => by rw [← hc.cancelled_of_idle ha hr])).trans
          (List.map_id' _)
      simp only [cancelActive, allCancelled, ha, hruns]
      cases c
      cases ha
      rfl
  | some n =>
      have hruns : (c.update n (fun r => { r with cancelled := true })).runs =
          c.runs.map (fun run => { run with cancelled := true }) := by
        refine List.map_congr_left (fun run hr => ?_)
        by_cases hn : run.number = n
        · rw [if_pos hn]
        · -- all but the active run are cancelled already
          obtain ⟨x, hx, rfl, hu⟩ := (hc.active n).mp ha
          have hcan := hc.older run hr (fun h => hn (h.trans (hc.latest hx hu).symm))
          rw [if_neg hn, ← hcan]
      simp only [cancelActive, allCancelled, ha, hruns]
      rfl

/-- The slot is free or that of the latest run. -/
theorem Coherent.active_cases (hc : c.Coherent) :
    c.active = none ∨ c.active = some c.generation := by
  cases ha : c.active with
  | none => exact .inl rfl
  | some n =>
      obtain ⟨x, hx, rfl, hu⟩ := (hc.active n).mp ha
      rw [hc.latest hx hu]
      exact .inr rfl

/-- All runs but the latest one are cancelled by now. -/
theorem Coherent.remove_allCancelled (hc : c.Coherent) :
    (c.allCancelled.remove c.generation).runs = (c.remove c.generation).runs := by
  simp only [remove, allCancelled, List.filter_map]
  refine (List.map_congr_left (fun x hx => ?_)).trans (List.map_id' _)
  obtain ⟨hx, hn⟩ := List.mem_filter.mp hx
  rw [← hc.older x hx (by simpa using hn)]

/-- Whether a run that is released is the latest one makes no difference to the others. -/
theorem Coherent.release_eq (hc : c.Coherent) : c.release run = c.retire run.number := by
  by_cases hg : c.generation = run.number
  · have hslot : (if c.active = some run.number then none else c.active) = none := by
      rcases hc.active_cases with h | h <;> simp [h, hg]
    rw [release, if_pos hg, hc.cancelActive_eq, retire, hslot, ← hg]
    exact congrArg (fun runs => { c with active := none, runs := runs }) hc.remove_allCancelled
  · have hslot : c.active ≠ some run.number := by
      rcases hc.active_cases with h | h <;> simp [h, hg]
    rw [release, if_neg hg, retire, if_neg hslot]
    rfl

/-- The slot of a run that is not cancelled is its own. -/
theorem Coherent.retire_active (hc : c.Coherent) (hr : run ∈ c.runs) (hu : run.cancelled = false) :
    (c.retire run.number).active = none :=
  if_pos ((hc.active _).mpr ⟨run, hr, rfl, hu⟩)

/-! ### Changes that keep a state coherent -/

theorem Coherent.allCancelled (hc : c.Coherent) : c.allCancelled.Coherent where
  nodup := by simpa [Coordinator.allCancelled, Function.comp_def] using hc.nodup
  pos run h := by obtain ⟨x, hx, rfl⟩ := mem_allCancelled.mp h; exact hc.pos x hx
  le run h := by obtain ⟨x, hx, rfl⟩ := mem_allCancelled.mp h; exact hc.le x hx
  older run h _ := by obtain ⟨x, -, rfl⟩ := mem_allCancelled.mp h; rfl
  active n := by
    refine ⟨nofun, ?_⟩
    rintro ⟨run, h, -, hu⟩
    obtain ⟨x, -, rfl⟩ := mem_allCancelled.mp h
    cases hu
  live run h := by obtain ⟨x, hx, rfl⟩ := mem_allCancelled.mp h; exact hc.live x hx

theorem Coherent.launch (hc : c.Coherent) (hn : run.number = c.generation + 1)
    (hu : run.cancelled = false) (hp : run.phase.Live) : (c.launch run).Coherent where
  nodup := by
    have hold : c.generation + 1 ∉ c.allCancelled.runs.map (·.number) := by
      intro h
      obtain ⟨x, hx, hxn⟩ := List.mem_map.mp h
      exact absurd (hc.allCancelled.le x hx) (by rw [hxn]; exact Nat.not_succ_le_self _)
    -- the new number is greater than any in flight
    simp only [Coordinator.launch, List.map_append, List.map_cons, List.map_nil, hn]
    exact List.nodup_append.mpr ⟨hc.allCancelled.nodup, List.nodup_singleton _, by
      rintro a ha b hb rfl
      rw [List.mem_singleton.mp hb] at ha
      exact hold ha⟩
  pos x h := by
    rcases mem_launch.mp h with h | rfl
    · exact hc.allCancelled.pos x h
    · rw [hn]; exact Nat.succ_pos _
  le x h := by
    rcases mem_launch.mp h with h | rfl
    · refine Nat.le_trans (hc.allCancelled.le x h) ?_
      rw [Coordinator.launch, hn]
      exact Nat.le_succ _
    · exact Nat.le_refl _
  older x h hne := by
    rcases mem_launch.mp h with h | rfl
    · obtain ⟨y, -, rfl⟩ := mem_allCancelled.mp h; rfl
    · exact absurd rfl hne
  active n := by
    constructor
    · intro h
      cases h
      exact ⟨run, mem_launch.mpr (.inr rfl), rfl, hu⟩
    · rintro ⟨x, h, rfl, hxu⟩
      rcases mem_launch.mp h with h | rfl
      · obtain ⟨y, -, rfl⟩ := mem_allCancelled.mp h; cases hxu
      · rfl
  live x h := by
    rcases mem_launch.mp h with h | rfl
    · exact hc.allCancelled.live x h
    · exact hp

theorem Coherent.turn (hc : c.Coherent) {n : Nat} {phase : RunPhase} (hp : phase.Live) :
    (c.turn n phase).Coherent where
  nodup := by
    have h : (c.turn n phase).runs.map (·.number) = c.runs.map (·.number) := by
      simp only [Coordinator.turn, update, List.map_map]
      refine List.map_congr_left (fun x _ => ?_)
      simp only [Function.comp]
      split <;> rfl
    rw [h]; exact hc.nodup
  pos x h := by obtain ⟨y, hy, hn, -⟩ := exists_of_mem_turn h; exact hn ▸ hc.pos y hy
  le x h := by obtain ⟨y, hy, hn, -⟩ := exists_of_mem_turn h; exact hn ▸ hc.le y hy
  older x h hne := by
    obtain ⟨y, hy, hn, -, hu, -⟩ := exists_of_mem_turn h
    exact hu ▸ hc.older y hy (hn ▸ hne)
  active m := by
    refine (hc.active m).trans ⟨?_, ?_⟩
    · rintro ⟨y, hy, rfl, hu⟩
      obtain ⟨x, hx, hn, hu'⟩ := exists_mem_turn n phase hy
      exact ⟨x, hx, hn, hu'.trans hu⟩
    · rintro ⟨x, hx, rfl, hu⟩
      obtain ⟨y, hy, hn, -, hu', -⟩ := exists_of_mem_turn hx
      exact ⟨y, hy, hn, hu'.trans hu⟩
  live x h := by
    obtain ⟨y, hy, -, -, -, hl | hl⟩ := exists_of_mem_turn h
    · exact hl ▸ hc.live y hy
    · exact hl ▸ hp

theorem Coherent.retire (hc : c.Coherent) (n : Nat) : (c.retire n).Coherent where
  nodup := hc.nodup.sublist (List.filter_sublist.map _)
  pos x h := hc.pos x (mem_retire.mp h).1
  le x h := hc.le x (mem_retire.mp h).1
  older x h hne := hc.older x (mem_retire.mp h).1 hne
  active m := by
    have hslot : (c.retire n).active = some m ↔ c.active = some m ∧ m ≠ n := by
      simp only [Coordinator.retire]
      split
      · rename_i h
        rw [h]
        exact ⟨nofun, fun ⟨h₁, h₂⟩ => absurd (Option.some.inj h₁).symm h₂⟩
      · rename_i h
        exact ⟨fun h' => ⟨h', fun hmn => h (hmn ▸ h')⟩, And.left⟩
    rw [hslot, hc.active m]
    constructor
    · rintro ⟨⟨x, hx, rfl, hu⟩, hne⟩
      exact ⟨x, mem_retire.mpr ⟨hx, hne⟩, rfl, hu⟩
    · rintro ⟨x, hx, rfl, hu⟩
      exact ⟨⟨x, (mem_retire.mp hx).1, rfl, hu⟩, (mem_retire.mp hx).2⟩
  live x h := hc.live x (mem_retire.mp h).1

/-- The progress and the last outcome are of no consequence. -/
theorem Coherent.congr {c c' : Coordinator} (hc : c.Coherent) (hg : c'.generation = c.generation)
    (ha : c'.active = c.active) (hr : c'.runs = c.runs) : c'.Coherent := by
  obtain ⟨h₁, h₂, h₃, h₄, h₅, h₆⟩ := hc
  constructor <;> simpa only [hg, ha, hr]

end

end Coordinator

end MediaMonitor
