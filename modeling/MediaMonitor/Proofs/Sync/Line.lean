import MediaMonitor.Sync.Operation

/-!
# The line of an operation

The line of a rule is found by two searches for a phase.  A rule has a line if and only if one of
its keys has a job at work (`SyncOperation.isSome_status?`), and the line describes the first job in
the items phase or else the first in the history phase (`SyncOperation.exists_describes`).  It says
which phase the job is in, and how far it is if that is known (`SyncJobState.Says`).
-/

namespace MediaMonitor

namespace SyncJobState

/-- The text tells what a job at work syncs, and how far it is if both numbers are known. -/
def Says (job : SyncJobState) (text : String) : Prop :=
  ∃ label progress, text = label ++ progress ∧
    (job.phase = .items ∧ label = "Syncing items" ∨
      job.phase = .history ∧ label = "Syncing watch history") ∧
    ((∃ current total, job.current = some current ∧ job.total = some total ∧
        progress = " " ++ toString current ++ "/" ++ toString total) ∨
      (job.current = none ∨ job.total = none) ∧ progress = "...")

/-- The line of a job at work tells this. -/
theorem says_line {job : SyncJobState} (h : job.phase = .items ∨ job.phase = .history) :
    job.Says job.line := by
  have hlabel (label : String)
      (heq : label = if job.phase = .history then "Syncing watch history" else "Syncing items") :
      job.phase = .items ∧ label = "Syncing items" ∨
        job.phase = .history ∧ label = "Syncing watch history" := by
    rcases h with hitems | hhistory
    · exact .inl ⟨hitems, by rw [heq, hitems]; rfl⟩
    · exact .inr ⟨hhistory, by rw [heq, hhistory]; rfl⟩
  rw [line]
  cases hcurrent : job.current with
  | none => exact ⟨_, _, rfl, hlabel _ rfl, .inr ⟨.inl hcurrent, rfl⟩⟩
  | some current =>
      cases htotal : job.total with
      | none => exact ⟨_, _, rfl, hlabel _ rfl, .inr ⟨.inr htotal, rfl⟩⟩
      | some total =>
          refine ⟨_, _, ?_, hlabel _ rfl, .inl ⟨current, total, hcurrent, htotal, rfl⟩⟩
          simp only [String.append_assoc]
          rfl

end SyncJobState

namespace SyncOperation

/-- The job of a key is in a phase. -/
def inPhase (s : SyncSnapshot) (phase : SyncPhase) (k : TrackedKey) : Bool :=
  (s.get? k.key).any (·.phase = phase)

/-- The job of a key is at work. -/
def atWork (s : SyncSnapshot) (k : TrackedKey) : Bool := (s.get? k.key).any (·.phase.isActive)

/-- One of the keys has a job at work. -/
def active (op : SyncOperation) (s : SyncSnapshot) : Bool := op.keys.any (atWork s)

/-- The key that a line describes: the first in the items phase, or else the first in the history
phase. -/
def Describes (op : SyncOperation) (s : SyncSnapshot) (k : TrackedKey) : Prop :=
  op.keys.find? (inPhase s .items) = some k ∨
    (∀ other ∈ op.keys, inPhase s .items other = false) ∧
      op.keys.find? (inPhase s .history) = some k

variable {op : SyncOperation} {s : SyncSnapshot} {phase : SyncPhase} {k : TrackedKey}
  {job : SyncJobState}

/-- A job is at work in two of the four phases. -/
theorem atWork_eq (s : SyncSnapshot) (k : TrackedKey) :
    atWork s k = (inPhase s .items k || inPhase s .history k) := by
  rw [atWork, inPhase, inPhase]
  cases s.get? k.key with
  | none => rfl
  | some job => cases hphase : job.phase <;> simp [SyncPhase.isActive, hphase]

theorem inPhase?_eq_none :
    op.inPhase? s phase = none ↔ ∀ k ∈ op.keys, inPhase s phase k = false := by
  rw [inPhase?, List.findSome?_eq_none_iff]
  refine forall₂_congr fun k _ => ?_
  rw [inPhase]
  cases s.get? k.key with
  | none => simp
  | some job => simp

/-- The search finds the first key in the phase, and its job. -/
theorem find?_of_inPhase? (h : op.inPhase? s phase = some (k, job)) :
    op.keys.find? (inPhase s phase) = some k ∧ s.get? k.key = some job := by
  obtain ⟨before, first, after, hkeys, hfirst, hbefore⟩ := List.findSome?_eq_some_iff.mp h
  obtain ⟨found, hfound, hsome⟩ := Option.bind_eq_some_iff.mp hfirst
  split at hsome
  case isFalse => cases hsome
  case isTrue hphase =>
    cases hsome
    refine ⟨List.find?_eq_some_iff_append.mpr ⟨?_, before, after, hkeys, fun p hp => ?_⟩, hfound⟩
    · rw [inPhase, hfound, Option.any_some, decide_eq_true hphase]
    · have hnone := hbefore p hp
      rw [inPhase]
      cases hget : s.get? p.key with
      | none => rfl
      | some other => simpa [hget] using hnone

theorem status?_eq_none : op.status? s = none ↔ op.active s = false := by
  rw [status?, Option.map_eq_none_iff, Option.or_eq_none_iff, inPhase?_eq_none, inPhase?_eq_none,
    active, List.any_eq_false]
  constructor
  · rintro ⟨hitems, hhistory⟩ k hk
    simp [atWork_eq, hitems k hk, hhistory k hk]
  · intro hnone
    simp only [atWork_eq, Bool.or_eq_true, not_or, Bool.not_eq_true] at hnone
    exact ⟨fun k hk => (hnone k hk).1, fun k hk => (hnone k hk).2⟩

/-- A rule has a line if and only if one of its keys has a job at work. -/
theorem isSome_status? (op : SyncOperation) (s : SyncSnapshot) :
    (op.status? s).isSome = op.active s := by
  cases hactive : op.active s with
  | false => rw [status?_eq_none.mpr hactive]; rfl
  | true =>
      have hne : op.status? s ≠ none := by rw [Ne, status?_eq_none, hactive]; exact nofun
      exact Option.isSome_iff_ne_none.mpr hne

/-- The job that a line describes is at work. -/
theorem phase_of_describes (h : op.Describes s k) (hjob : s.get? k.key = some job) :
    job.phase = .items ∨ job.phase = .history := by
  have hphase {phase : SyncPhase} (hfound : op.keys.find? (inPhase s phase) = some k) :
      job.phase = phase := by
    have hin := List.find?_some hfound
    rw [inPhase, hjob, Option.any_some] at hin
    exact of_decide_eq_true hin
  rcases h with hitems | ⟨-, hhistory⟩
  · exact .inl (hphase hitems)
  · exact .inr (hphase hhistory)

/-- The line of a rule describes the job of one of its keys. -/
theorem exists_describes {line : String} (h : op.status? s = some line) :
    ∃ k job, op.Describes s k ∧ s.get? k.key = some job ∧ line = op.lineFor k job := by
  obtain ⟨⟨k, job⟩, hfound, rfl⟩ := Option.map_eq_some_iff.mp h
  rcases Option.or_eq_some_iff.mp hfound with hitems | ⟨hnone, hhistory⟩
  · obtain ⟨hfirst, hjob⟩ := find?_of_inPhase? hitems
    exact ⟨k, job, .inl hfirst, hjob, rfl⟩
  · obtain ⟨hfirst, hjob⟩ := find?_of_inPhase? hhistory
    exact ⟨k, job, .inr ⟨inPhase?_eq_none.mp hnone, hfirst⟩, hjob, rfl⟩

/-- The line of a rule names the library if and only if the rule has several keys. -/
theorem lineFor_eq_iff (op : SyncOperation) (k : TrackedKey) (job : SyncJobState) :
    (op.lineFor k job = k.libraryName ++ ": " ++ job.line ↔ 1 < op.keys.length) ∧
      (op.lineFor k job = job.line ↔ op.keys.length ≤ 1) := by
  have hne : k.libraryName ++ ": " ++ job.line ≠ job.line := by
    intro heq
    have hlength := congrArg String.length heq
    rw [String.length_append, String.length_append] at hlength
    have hcolon : ": ".length = 2 := rfl
    omega
  rw [lineFor, ← Nat.not_lt]
  split
  case isTrue h => exact ⟨iff_of_true rfl h, iff_of_false hne (not_not_intro h)⟩
  case isFalse h => exact ⟨iff_of_false hne.symm h, iff_of_true rfl h⟩

end SyncOperation

end MediaMonitor
