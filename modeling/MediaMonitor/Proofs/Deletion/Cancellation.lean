import Mathlib.Data.List.Infix
import MediaMonitor.Proofs.Deletion.Digest

/-!
# Cancelled reads

A read can be cancelled while it waits for an item, as an item is delivered, or inside a call that
tells of progress.  Nothing is told of from then on, and nothing that comes later gets into the
report (`Reading.run_cancelled`): it shows the progress told of by that moment, no final result, and
that the read was cancelled or the body was over.  One thing comes through: an error of the
transport, when the read is cancelled just as this error is delivered
(`Reading.failed_as_cancelled`).

Up to the moment the read is the uncancelled one, and from then on every step either leaves it alone
or halts it.  Only inside a call the two reads have to be followed side by side (`Abreast`), because
the frames behind the one that is told of are pending already.
-/

namespace MediaMonitor

/-- A moment at which a read is cancelled; items and calls are counted from 0. -/
inductive CancelMoment where
  /-- While the read waits for an item: before it starts, between two items, or when the body
  stalls. -/
  | waiting (item : Nat)
  /-- As an item is delivered, the end of the body being one. -/
  | delivering (item : Nat)
  /-- Inside a call that tells of progress. -/
  | call (number : Nat)

/-- The plan to cancel at a moment. -/
def CancelMoment.plan : CancelMoment → CancelPlan
  | .waiting n => { waiting := fun i => i = n }
  | .delivering n => { delivering := fun i => i = n }
  | .call k => { call := fun j => j = k + 1 }

theorem CancelMoment.plan_delivering (n : Nat) :
    (CancelMoment.delivering n).plan.delivering n = true :=
  decide_eq_true rfl

/-- What has come of a body while its `n`-th item is waited for. -/
def Body.before (b : Body) (n : Nat) : Body := { items := b.items.take n, stalls := true }

namespace Reading

/-- An uncancelled read comes to the moment: it has not stopped by then. -/
def Meets (body : Body) : CancelMoment → Prop
  | .waiting n =>
      n ≤ body.items.length ∧ (run {} (body.before n)).reading.stopped = false
  | .delivering n =>
      (n < body.items.length ∨ n = body.items.length ∧ body.stalls = false) ∧
        (run {} (body.before n)).reading.stopped = false
  | .call k => k < (run {} body).calls.length

/-- The progress that an uncancelled read has told of by the moment. -/
def toldBy (body : Body) : CancelMoment → List DeleteProgress
  | .waiting n => (run {} (body.before n)).calls
  | .delivering n => (run {} (body.before n)).calls
  | .call k => (run {} body).calls.take (k + 1)

/-! ### One step of a read -/

/-- What the step that deals with the first pending frame can be. -/
inductive Applied (r : Reading) (cancelled : Bool) : Option DeleteProgress × Reading → Prop where
  | idle (hp : r.pending = []) : Applied r cancelled (none, r)
  | cut {frame : Sse.Frame} {rest : List Sse.Frame} (hp : r.pending = frame :: rest)
      (hc : cancelled = true) : Applied r cancelled (none, r.halt .cancelled)
  | told {frame : Sse.Frame} {rest : List Sse.Frame} (hp : r.pending = frame :: rest)
      (hc : cancelled = false) (p : DeleteProgress) : Applied r cancelled
        (some p, settle { r with pending := rest, report := { r.report with
          progress := some p, framesApplied := r.report.framesApplied + 1 } })
  | skipped {frame : Sse.Frame} {rest : List Sse.Frame} (hp : r.pending = frame :: rest)
      (hc : cancelled = false) : Applied r cancelled
        (none, settle { r with pending := rest, report := { r.report with
          skippedFrames := r.report.skippedFrames + 1 } })
  | complete {frame : Sse.Frame} {rest : List Sse.Frame} (hp : r.pending = frame :: rest)
      (hc : cancelled = false) (result : BulkDeleteResult) : Applied r cancelled
        (none, halt { r with report := { r.report with
          result := some result, framesApplied := r.report.framesApplied + 1 } } .finished)
  | failed {frame : Sse.Frame} {rest : List Sse.Frame} (hp : r.pending = frame :: rest)
      (hc : cancelled = false) (reason : String) : Applied r cancelled
        (none, r.halt (.failed reason))

theorem applied (r : Reading) (cancelled : Bool) : Applied r cancelled (r.applyNext cancelled) := by
  cases hp : r.pending with
  | nil => simpa [applyNext, hp] using .idle hp
  | cons frame rest =>
      simp only [applyNext, hp]
      cases cancelled with
      | true => exact .cut hp rfl
      | false =>
          rw [if_neg (by simp)]
          rcases hf : StreamFrame.ofFrame frame with fault | (p | result | reason)
          · rw [applyFrame_skipped hf]; exact .skipped hp rfl
          · rw [applyFrame_progress hf]; exact .told hp rfl p
          · rw [applyFrame_complete hf]; exact .complete hp rfl result
          · rw [applyFrame_error hf]; exact .failed hp rfl reason

theorem pending_settle (r : Reading) : r.settle.pending = r.pending := by
  rw [settle]
  split
  · rename_i h; exact h.1.symm
  · rfl

theorem bodyOver_settle (r : Reading) : r.settle.bodyOver = r.bodyOver := by
  rw [settle]; split <;> rfl

theorem result_settle (r : Reading) : r.settle.report.result = r.report.result := by
  rw [settle]; split <;> rfl

theorem length_pending_applyNext (r : Reading) (cancelled : Bool) :
    (r.applyNext cancelled).2.pending.length ≤ r.pending.length - 1 := by
  have h := applied r cancelled
  generalize r.applyNext cancelled = step at h
  cases h with
  | idle hp => simp [hp]
  | told hp | skipped hp => simp [hp, pending_settle]
  | cut | complete | failed => exact Nat.zero_le _

theorem bodyOver_applyNext (r : Reading) (cancelled : Bool) :
    (r.applyNext cancelled).2.bodyOver = r.bodyOver := by
  have h := applied r cancelled
  generalize r.applyNext cancelled = step at h
  cases h with
  | told | skipped => exact bodyOver_settle _
  | idle | cut | complete | failed => rfl

/-- At the end of the body either no frame is left and the read has ended, or some are. -/
theorem close_cases (r : Reading) :
    r.close.bodyOver = true ∧
      ((r.close.pending = [] ∧ r.close = r.close.halt .closed ∧
          r.close.report.result = r.report.result) ∨
        (r.close.pending ≠ [] ∧ r.close.report = r.report)) := by
  rw [close_eq]
  dsimp only
  split
  · exact ⟨rfl, .inl ⟨rfl, rfl, rfl⟩⟩
  · rename_i hp
    exact ⟨rfl, .inr ⟨hp, rfl⟩⟩

/-! ### The report and the calls -/

/-- As long as there is no final result, the report shows the calls that were made. -/
structure Tells (calls : List DeleteProgress) (r : Reading) : Prop where
  tidy : r.stopped = true → r.pending = []
  result : r.stopped = false → r.report.result = none
  counts : r.report.result = none →
    r.report.progress = calls.getLast? ∧ r.report.framesApplied = calls.length

theorem tells_start : Tells [] {} := ⟨nofun, fun _ => rfl, fun _ => ⟨rfl, rfl⟩⟩

section
variable {calls : List DeleteProgress} {r : Reading}

theorem Tells.open_of_pending (h : Tells calls r) (hp : r.pending ≠ []) : r.stopped = false :=
  Bool.eq_false_iff.mpr fun hs => hp (h.tidy hs)

theorem Tells.halt (h : Tells calls r) (stop : StreamEnd) : Tells calls (r.halt stop) :=
  ⟨fun _ => rfl, nofun, h.counts⟩

theorem Tells.settle (h : Tells calls r) : Tells calls r.settle := by
  rw [Reading.settle]
  split
  · exact h.halt _
  · exact h

/-- Neither an item nor the end of the body changes the counts. -/
theorem Tells.next (h : Tells calls r) (hs : r.stopped = false) (item : Option BodyItem) :
    Tells calls ((item.map r.deliver).getD r.close) := by
  have hopen : ∀ q : Reading, q.stopped = r.stopped → q.report = r.report → Tells calls q := by
    rintro q hq hr
    refine ⟨fun hs' => ?_, fun _ => hr ▸ h.result hs, hr ▸ h.counts⟩
    exact absurd (hs.symm.trans (hq.symm.trans hs')) nofun
  rcases item with _ | (e | bs)
  · rw [Option.map_none, Option.getD_none, close_eq]
    dsimp only
    split
    · refine Tells.halt (hopen _ ?_ ?_) _ <;> rfl
    · exact hopen _ rfl rfl
  · exact h.halt _
  · exact hopen _ rfl rfl

/-- A frame is told of just when it gets into the report. -/
theorem Tells.applyNext (h : Tells calls r) (cancelled : Bool) :
    Tells (calls ++ (r.applyNext cancelled).1.toList) (r.applyNext cancelled).2 := by
  have hstep := applied r cancelled
  generalize r.applyNext cancelled = step at hstep
  have hopen : ∀ {frame rest}, r.pending = frame :: rest → r.stopped = false :=
    fun hp => h.open_of_pending (by simp [hp])
  cases hstep with
  | idle => simpa using h
  | cut => simpa using h.halt _
  | told hp =>
      refine Tells.settle
        ⟨fun hs => absurd ((hopen hp).symm.trans hs) nofun, h.result, fun hr => ?_⟩
      simp [(h.counts hr).2]
  | skipped hp =>
      refine Tells.settle ⟨fun hs => absurd ((hopen hp).symm.trans hs) nofun, h.result, ?_⟩
      simpa using h.counts
  | complete => exact ⟨fun _ => rfl, nofun, nofun⟩
  | failed => simpa using h.halt _

end

/-! ### Sessions -/

namespace Session

section
variable {plan : CancelPlan} {s : Session}

theorem await_of_stopped (h : s.reading.stopped = true) (n : Nat) : s.await plan n = s := by
  rw [await, if_pos h]

theorem take_of_stopped (h : s.reading.stopped = true) (n : Nat) (item : Option BodyItem) :
    s.take plan n item = s := by
  unfold take; rw [if_pos h]

/-- An open read takes what is delivered and applies its frames. -/
theorem take_of_open (h : s.reading.stopped = false) (n : Nat) (item : Option BodyItem) :
    s.take plan n item = drainAll plan { s with
      reading := (item.map s.reading.deliver).getD s.reading.close
      cancelled := s.cancelled || plan.delivering n } := by
  unfold take; rw [if_neg (by simp [h])]; cases item <;> rfl

/-- The calls of a session are those its report tells. -/
abbrev Tells (s : Session) : Prop := Reading.Tells s.calls s.reading

theorem Tells.drain (h : s.Tells) (k : Nat) : (Session.drain plan k s).Tells := by
  induction k generalizing s with
  | zero => exact h
  | succ k ih =>
      have hnext := Reading.Tells.applyNext h s.cancelled
      rw [Session.drain]
      dsimp only
      cases hp : (s.reading.applyNext s.cancelled).1 with
      | none => exact ih (by simpa [Tells, hp] using hnext)
      | some p => exact ih (by simpa [Tells, hp] using hnext)

theorem Tells.await (h : s.Tells) (n : Nat) : (s.await plan n).Tells := by
  rw [Session.await]
  split
  · exact h
  · split
    · exact Reading.Tells.halt h _
    · exact h

theorem Tells.take (h : s.Tells) (n : Nat) (item : Option BodyItem) :
    (s.take plan n item).Tells := by
  by_cases hs : s.reading.stopped = true
  · rwa [take_of_stopped hs]
  · have hs : s.reading.stopped = false := by simpa using hs
    rw [take_of_open hs]
    exact Tells.drain (s := ⟨_, _, _⟩) (Reading.Tells.next h hs item) _

/-- Reads some items of a body, from the `n`-th one on. -/
def readItems (plan : CancelPlan) : Nat → List BodyItem → Session → Session
  | _, [], s => s
  | n, item :: rest, s => readItems plan (n + 1) rest ((s.await plan n).take plan n (some item))

theorem readFrom_append (plan : CancelPlan) (stalls : Bool) (n : Nat) (xs ys : List BodyItem)
    (s : Session) :
    readFrom plan stalls n (xs ++ ys) s =
      readFrom plan stalls (n + xs.length) ys (readItems plan n xs s) := by
  induction xs generalizing n s with
  | nil => rfl
  | cons item rest ih =>
      rw [List.cons_append, readFrom, ih, readItems, List.length_cons, Nat.add_right_comm,
        Nat.add_assoc]

theorem Tells.readItems (h : s.Tells) (n : Nat) (items : List BodyItem) :
    (Session.readItems plan n items s).Tells := by
  induction items generalizing n s with
  | nil => exact h
  | cons item rest ih => exact ih ((h.await n).take n _) (n + 1)

theorem Tells.readFrom (h : s.Tells) (stalls : Bool) (n : Nat) (items : List BodyItem) :
    (Session.readFrom plan stalls n items s).Tells := by
  rw [← List.append_nil items, readFrom_append]
  have hitems : ((Session.readItems plan n items s).await plan (n + items.length)).Tells :=
    (h.readItems n items).await _
  rw [Session.readFrom]
  split
  · exact hitems
  · exact hitems.take _ _

/-! ### Before the moment -/

/-- A plan that does not cancel inside calls lets the frames be applied. -/
theorem drain_quiet (h : ∀ j, plan.call (j + 1) = false) (k : Nat) (s : Session) :
    drain plan k s = drain {} k s := by
  induction k generalizing s with
  | zero => rfl
  | succ k ih => simp [drain, ih, h]

/-- So far, the plan is to let the read go on. -/
structure Quiet (plan : CancelPlan) (n m : Nat) : Prop where
  waiting : ∀ i, n ≤ i → i < m → plan.waiting i = false
  delivering : ∀ i, n ≤ i → i < m → plan.delivering i = false
  call : ∀ j, plan.call (j + 1) = false

theorem await_quiet {n : Nat} (h : plan.waiting n = false) (s : Session) :
    s.await plan n = s.await {} n := by
  simp [await, h]

theorem take_quiet {n : Nat} (h : plan.delivering n = false)
    (hc : ∀ j, plan.call (j + 1) = false) (item : Option BodyItem) (s : Session) :
    s.take plan n item = s.take {} n item := by
  by_cases hs : s.reading.stopped = true
  · rw [take_of_stopped hs, take_of_stopped hs]
  · rw [take_of_open (by simpa using hs), take_of_open (by simpa using hs), drainAll, drainAll,
      drain_quiet hc, h]

theorem readItems_quiet {n : Nat} {items : List BodyItem}
    (h : Quiet plan n (n + items.length)) (s : Session) :
    readItems plan n items s = readItems {} n items s := by
  induction items generalizing n s with
  | nil => rfl
  | cons item rest ih =>
      rw [List.length_cons] at h
      have hrest : Quiet plan (n + 1) (n + 1 + rest.length) :=
        ⟨fun i h₁ h₂ => h.waiting i (by omega) (by omega),
          fun i h₁ h₂ => h.delivering i (by omega) (by omega), h.call⟩
      rw [readItems, readItems, await_quiet (h.waiting n (by omega) (by omega)),
        take_quiet (h.delivering n (by omega) (by omega)) h.call, ih hrest]

theorem readFrom_quiet {n : Nat} {items : List BodyItem} (stalls : Bool)
    (h : Quiet plan n (n + items.length + 1)) (s : Session) :
    readFrom plan stalls n items s = readFrom {} stalls n items s := by
  have hitems : Quiet plan n (n + items.length) :=
    ⟨fun i h₁ h₂ => h.waiting i h₁ (by omega), fun i h₁ h₂ => h.delivering i h₁ (by omega), h.call⟩
  rw [← List.append_nil items, readFrom_append, readFrom_append, readItems_quiet hitems, readFrom,
    readFrom, await_quiet (h.waiting _ (by omega) (by omega)),
    take_quiet (h.delivering _ (by omega) (by omega)) h.call]

/-! ### After the moment -/

theorem drain_of_pending_eq_nil (h : s.reading.pending = []) (k : Nat) : drain plan k s = s := by
  induction k with
  | zero => rfl
  | succ k ih => simp [drain, applyNext, h, ih]

/-- **A cancelled read applies no frame**: if there is one, the read ends before it. -/
theorem drain_cancelled (h : s.cancelled = true) {k : Nat} (hk : s.reading.pending.length ≤ k) :
    drain plan k s =
      if s.reading.pending = [] then s else { s with reading := s.reading.halt .cancelled } := by
  split
  · rename_i hp
    exact drain_of_pending_eq_nil hp k
  · rename_i hp
    obtain ⟨frame, rest, hcons⟩ := List.exists_cons_of_ne_nil hp
    obtain ⟨k, rfl⟩ : ∃ j, k = j + 1 := ⟨k - 1, by rw [hcons, List.length_cons] at hk; omega⟩
    simp only [drain, applyNext, hcons, h, if_true]
    exact drain_of_pending_eq_nil rfl k

/-- A read that is cancelled ends when it waits. -/
theorem await_cancelled {n : Nat} (hs : s.reading.stopped = false)
    (h : (s.cancelled || plan.waiting n) = true) :
    s.await plan n = ⟨s.reading.halt .cancelled, s.calls, true⟩ := by
  rw [await, if_neg (by simp [hs]), if_pos h]

/-- The rest of a body is not read once the read is cancelled. -/
theorem readFrom_cancelled {stalls : Bool} {n : Nat} (hs : s.reading.stopped = false)
    (h : (s.cancelled || plan.waiting n) = true) (items : List BodyItem) :
    readFrom plan stalls n items s = ⟨s.reading.halt .cancelled, s.calls, true⟩ := by
  have hawait := await_cancelled hs h
  have hstopped : (s.await plan n).reading.stopped = true := by rw [hawait]; rfl
  cases items with
  | nil => rw [readFrom, take_of_stopped hstopped, ite_self, hawait]
  | cons item rest =>
      rw [readFrom, take_of_stopped hstopped, readFrom_of_stopped hstopped, hawait]

/-! ### Calls are never taken back -/

theorem prefix_drain (k : Nat) (s : Session) : s.calls <+: (drain plan k s).calls := by
  induction k generalizing s with
  | zero => exact List.prefix_refl _
  | succ k ih =>
      rw [drain]
      dsimp only
      split
      · exact (List.prefix_append _ _).trans (ih ⟨_, _, _⟩)
      · exact ih { s with reading := (s.reading.applyNext s.cancelled).2 }

theorem await_calls (plan : CancelPlan) (n : Nat) (s : Session) :
    (s.await plan n).calls = s.calls := by
  rw [await]
  split
  · rfl
  · split <;> rfl

theorem prefix_take (plan : CancelPlan) (n : Nat) (item : Option BodyItem) (s : Session) :
    s.calls <+: (s.take plan n item).calls := by
  by_cases hs : s.reading.stopped = true
  · rw [take_of_stopped hs]
  · rw [take_of_open (by simpa using hs)]
    exact prefix_drain _ { s with
      reading := (item.map s.reading.deliver).getD s.reading.close
      cancelled := s.cancelled || plan.delivering n }

theorem prefix_readFrom (stalls : Bool) (n : Nat) (items : List BodyItem) (s : Session) :
    s.calls <+: (readFrom plan stalls n items s).calls := by
  induction items generalizing n s with
  | nil =>
      rw [readFrom]
      split
      · rw [await_calls]
      · exact (await_calls plan n s) ▸ prefix_take _ _ _ _
  | cons item rest ih =>
      have htake := prefix_take plan n (some item) (s.await plan n)
      rw [await_calls] at htake
      exact htake.trans (ih _ _)

/-! ### Inside a call -/

/-- The read that was cancelled inside its `k`-th call, beside the one that was not cancelled. -/
structure Parted (k : Nat) (s u : Session) : Prop where
  cancelled : s.cancelled = true
  told : k < u.calls.length
  calls : s.calls = u.calls.take (k + 1)
  result : s.reading.report.result = none
  stop : s.reading.stopped = true →
    s.reading.report.stop = .cancelled ∨ s.reading.report.stop = .closed
  ended : s.reading.bodyOver = true → s.reading.stopped = true

/-- The read that is to be cancelled inside its `k`-th call, beside the one that is not: they are
the same up to this call. -/
inductive Abreast (k : Nat) : Session → Session → Prop where
  | together {s : Session} (h : s.cancelled = false) (hk : s.calls.length ≤ k) : Abreast k s s
  | parted {s u : Session} (h : Parted k s u) : Abreast k s u

theorem bodyOver_drain (k : Nat) (s : Session) :
    (drain plan k s).reading.bodyOver = s.reading.bodyOver := by
  induction k generalizing s with
  | zero => rfl
  | succ k ih =>
      rw [drain]
      dsimp only
      split
      · rw [ih]; exact bodyOver_applyNext _ _
      · rw [ih]; exact bodyOver_applyNext _ _

theorem Parted.follow {k : Nat} {u v : Session} (h : Parted k s u) (hv : u.calls <+: v.calls) :
    Parted k s v := by
  obtain ⟨later, hv⟩ := hv
  have hlt := h.told
  refine ⟨h.cancelled, ?_, ?_, h.result, h.stop, h.ended⟩
  · rw [← hv, List.length_append]; omega
  · rw [← hv, List.take_append_of_le_length (by omega)]; exact h.calls

theorem Parted.halt {k : Nat} {u : Session} (h : Parted k s u) :
    Parted k { s with reading := s.reading.halt .cancelled } u :=
  ⟨h.cancelled, h.told, h.calls, h.result, fun _ => .inl rfl, fun _ => rfl⟩

/-- The read is cancelled inside a call: no frame behind it is applied. -/
theorem parted_told {k n : Nat} {p : DeleteProgress} {r : Reading}
    (hstep : Applied s.reading false (some p, r)) (ht : s.Tells) (hk : s.calls.length = k)
    (hn : r.pending.length ≤ n) :
    Parted k (drain plan n ⟨r, s.calls ++ [p], true⟩) (drain {} n ⟨r, s.calls ++ [p], false⟩) := by
  rw [drain_cancelled rfl hn]
  refine Parted.follow (u := ⟨r, s.calls ++ [p], false⟩) ?_ (prefix_drain n _)
  have htold : k < (s.calls ++ [p]).length := by simp [hk]
  have hcalls : s.calls ++ [p] = (s.calls ++ [p]).take (k + 1) :=
    (List.take_of_length_le (by simp [hk])).symm
  cases hstep with
  | @told frame rest hp =>
      have hopen := ht.open_of_pending (by simp [hp])
      have hresult := ht.result hopen
      rw [pending_settle]
      dsimp only
      split
      · -- no frame is behind it; the end of the body ends the read
        rename_i hrest
        rw [settle]
        split
        · exact ⟨rfl, htold, hcalls, hresult, fun _ => .inr rfl, fun _ => rfl⟩
        · rename_i hover
          exact ⟨rfl, htold, hcalls, hresult, fun hs => Bool.noConfusion (hopen.symm.trans hs),
            fun hb => absurd ⟨hrest, hb⟩ hover⟩
      · exact ⟨rfl, htold, hcalls, (result_settle _).trans hresult, fun _ => .inl rfl,
          fun _ => rfl⟩

/-- The frames of an item, up to the call and from it on. -/
theorem abreast_drain {k n : Nat} (ht : s.Tells) (hu : s.cancelled = false)
    (hk : s.calls.length ≤ k) (hn : s.reading.pending.length ≤ n) :
    Abreast k (drain (CancelMoment.call k).plan n s) (drain {} n s) := by
  induction n generalizing s with
  | zero => exact .together hu hk
  | succ n ih =>
      have hlen := length_pending_applyNext s.reading false
      have htells := Reading.Tells.applyNext ht false
      have hstep := applied s.reading false
      rw [drain, drain, hu]
      dsimp only
      generalize s.reading.applyNext false = step at hlen htells hstep
      obtain ⟨told, r⟩ := step
      dsimp only at hlen htells ⊢
      cases told with
      | none => exact ih (by simpa using htells) rfl hk (by dsimp only; omega)
      | some p =>
          have hcalls : (s.calls ++ [p]).length = s.calls.length + 1 := by simp
          have hplan : (CancelMoment.call k).plan.call (s.calls ++ [p]).length =
              decide (s.calls.length = k) := by
            rw [hcalls]; simp [CancelMoment.plan]
          simp only [hplan, Bool.false_or]
          by_cases hlast : s.calls.length = k
          · -- the read is cancelled here
            rw [decide_eq_true hlast]
            exact .parted (parted_told hstep ht hlast (by omega))
          · rw [decide_eq_false hlast]
            exact ih (s := ⟨r, s.calls ++ [p], false⟩) htells rfl (by dsimp only; omega)
              (by dsimp only; omega)
theorem Abreast.await {k : Nat} {u : Session} (h : Abreast k s u) (n : Nat) :
    Abreast k (s.await (CancelMoment.call k).plan n) (u.await {} n) := by
  cases h with
  | together hu hk =>
      have hquiet : s.await (CancelMoment.call k).plan n = s.await {} n := await_quiet rfl s
      rw [hquiet, await_uncancelled hu]
      exact .together hu hk
  | parted h =>
      refine .parted (Parted.follow (u := u) ?_ (by rw [await_calls]))
      by_cases hs : s.reading.stopped = true
      · rwa [await_of_stopped hs]
      · rw [await_cancelled (by simpa using hs) (by simp [h.cancelled])]
        simpa [h.cancelled] using h.halt

theorem Abreast.take {k : Nat} {u : Session} (h : Abreast k s u) (ht : s.Tells)
    (hw : s.cancelled = true → s.reading.stopped = true) (n : Nat) (item : Option BodyItem) :
    Abreast k (s.take (CancelMoment.call k).plan n item) (u.take {} n item) := by
  cases h with
  | together hu hk =>
      by_cases hs : s.reading.stopped = true
      · rw [take_of_stopped hs, take_of_stopped hs]
        exact .together hu hk
      · have hs : s.reading.stopped = false := by simpa using hs
        have hreading : Reading.Tells s.calls ((item.map s.reading.deliver).getD s.reading.close) :=
          ht.next hs item
        rw [take_of_open hs, take_of_open hs, hu]
        exact abreast_drain (s := ⟨_, s.calls, false⟩) hreading rfl hk (Nat.le_refl _)
  | parted h =>
      rw [take_of_stopped (hw h.cancelled)]
      exact .parted (h.follow (prefix_take _ _ _ _))

/-- A read that is cancelled by the time it waits has stopped then. -/
theorem stopped_await (plan : CancelPlan) (n : Nat) (s : Session)
    (h : (s.await plan n).cancelled = true) : (s.await plan n).reading.stopped = true := by
  rw [await] at h ⊢
  split
  · assumption
  · rename_i hs
    rw [if_neg hs] at h
    split
    · rfl
    · rename_i hc
      rw [if_neg hc] at h
      exact absurd (by rw [h]; rfl) hc

/-- The two reads stay abreast; once they have parted, the cancelled one comes to its end. -/
theorem Abreast.readFrom {k : Nat} {u : Session} (h : Abreast k s u) (ht : s.Tells) (stalls : Bool)
    (n : Nat) (items : List BodyItem) :
    let s' := Session.readFrom (CancelMoment.call k).plan stalls n items s
    let u' := Session.readFrom {} stalls n items u
    (s' = u' ∧ u'.calls.length ≤ k) ∨ (Parted k s' u' ∧ s'.reading.stopped = true) := by
  induction items generalizing n s u with
  | nil =>
      have hawait := h.await n
      have hw := stopped_await (CancelMoment.call k).plan n s
      have htake := hawait.take (ht.await n) hw n none
      generalize hs : s.await (CancelMoment.call k).plan n = s₁ at hawait hw htake
      simp only [Session.readFrom, hs]
      cases stalls with
      | true =>
          rw [if_pos rfl, if_pos rfl]
          cases hawait with
          | together _ hk => exact .inl ⟨rfl, hk⟩
          | parted h => exact .inr ⟨h, hw h.cancelled⟩
      | false =>
          rw [if_neg (by decide), if_neg (by decide)]
          have hend : s₁.reading.stopped = false →
              (s₁.take (CancelMoment.call k).plan n none).reading.bodyOver = true := by
            intro hopen
            rw [take_of_open hopen, drainAll, bodyOver_drain]
            exact (close_cases _).1
          generalize hs₂ : s₁.take (CancelMoment.call k).plan n none = s₂ at htake hend
          cases htake with
          | together _ hk => exact .inl ⟨rfl, hk⟩
          | parted h =>
              refine .inr ⟨h, ?_⟩
              by_cases hopen : s₁.reading.stopped = true
              · rwa [← hs₂, take_of_stopped hopen]
              · exact h.ended (hend (by simpa using hopen))
  | cons item rest ih =>
      have hw := stopped_await (CancelMoment.call k).plan n s
      exact ih ((h.await n).take (ht.await n) hw n (some item)) ((ht.await n).take n (some item))
        (n + 1)

/-- An uncancelled session stays so. -/
theorem uncancelled_readItems (h : s.cancelled = false) (n : Nat) (items : List BodyItem) :
    (readItems {} n items s).cancelled = false := by
  induction items generalizing n s with
  | nil => exact h
  | cons item rest ih =>
      refine ih ?_ (n + 1)
      rw [await_uncancelled h]
      by_cases hs : s.reading.stopped = true
      · rwa [take_of_stopped hs]
      · rw [take_uncancelled (by simpa using hs) h]

/-- A read that is cancelled as something is delivered applies none of the frames in it. -/
theorem take_struck {n : Nat} (hs : s.reading.stopped = false) (h : plan.delivering n = true)
    (item : Option BodyItem) :
    let r := (item.map s.reading.deliver).getD s.reading.close
    s.take plan n item = ⟨if r.pending = [] then r else r.halt .cancelled, s.calls, true⟩ := by
  intro r
  rw [take_of_open hs, drainAll, drain_cancelled (by simp [h]) (Nat.le_refl _)]
  simp only [h, Bool.or_true]
  split <;> rfl

end

end Session

/-! ### A whole read -/

theorem run_before (body : Body) (n : Nat) :
    run {} (body.before n) = Session.readItems {} 0 (body.items.take n) {} := by
  rw [run, Body.before, ← List.append_nil (body.items.take n), Session.readFrom_append]
  rw [Session.readFrom, if_pos rfl, List.append_nil]
  exact Session.await_uncancelled (Session.uncancelled_readItems rfl _ _) _

/-- A read that is not cancelled before its `n`-th item is the uncancelled one up to there. -/
theorem run_split {plan : CancelPlan} {body : Body} {n : Nat} (hn : n ≤ body.items.length)
    (h : Session.Quiet plan 0 n) :
    run plan body =
      Session.readFrom plan body.stalls n (body.items.drop n) (run {} (body.before n)) := by
  have hlen : (body.items.take n).length = n := by simp [hn]
  have hitems : Session.readItems plan 0 (body.items.take n) {} =
      Session.readItems {} 0 (body.items.take n) {} :=
    Session.readItems_quiet (by rwa [hlen, Nat.zero_add]) _
  rw [run_before, ← hitems]
  have hrun := Session.readFrom_append plan body.stalls 0 (body.items.take n) (body.items.drop n) {}
  rwa [List.take_append_drop, hlen, Nat.zero_add] at hrun

theorem tells_run (plan : CancelPlan) (body : Body) : (run plan body).Tells :=
  Session.Tells.readFrom (s := {}) tells_start body.stalls 0 body.items

theorem uncancelled_before (body : Body) (n : Nat) :
    (run {} (body.before n)).cancelled = false := by
  rw [run_before]; exact Session.uncancelled_readItems rfl _ _

end Reading

/-- The error of the transport that is delivered at a moment. -/
def CancelMoment.fault? (body : Body) : CancelMoment → Option BridgeError
  | .delivering n =>
      match body.items[n]? with
      | some (.error e) => some e
      | _ => none
  | _ => none

namespace Reading

/-- What a read comes to that is cancelled at a moment. -/
structure CutShort (body : Body) (m : CancelMoment) (s : Session) : Prop where
  /-- The read has ended. -/
  stopped : s.reading.stopped = true
  /-- Nothing is told of from the moment on. -/
  calls : s.calls = toldBy body m
  result : s.reading.report.result = none
  stop : match m.fault? body with
    | some e => s.reading.report.stop = .failed e.message
    | none => s.reading.report.stop = .cancelled ∨ s.reading.report.stop = .closed

section
variable {body : Body}

theorem cutShort_waiting {n : Nat} (h : Meets body (.waiting n)) :
    CutShort body (.waiting n) (run (CancelMoment.waiting n).plan body) := by
  obtain ⟨hn, hopen⟩ := h
  have hquiet : Session.Quiet (CancelMoment.waiting n).plan 0 n :=
    ⟨fun i _ hi => decide_eq_false (Nat.ne_of_lt hi), fun _ _ _ => rfl, fun _ => rfl⟩
  rw [run_split hn hquiet, Session.readFrom_cancelled hopen (by simp [CancelMoment.plan])]
  exact ⟨rfl, rfl, (tells_run {} (body.before n)).result hopen, .inl rfl⟩

/-- Until the item is delivered nothing happens to the read. -/
theorem await_before (body : Body) (n : Nat) :
    (run {} (body.before n)).await (CancelMoment.delivering n).plan n = run {} (body.before n) := by
  rw [Session.await_quiet rfl, Session.await_uncancelled (uncancelled_before body n)]

theorem run_delivering {n : Nat} (hn : n ≤ body.items.length) :
    run (CancelMoment.delivering n).plan body =
      Session.readFrom (CancelMoment.delivering n).plan body.stalls n (body.items.drop n)
        (run {} (body.before n)) :=
  run_split hn
    ⟨fun _ _ _ => rfl, fun _ _ hi => decide_eq_false (Nat.ne_of_lt hi), fun _ => rfl⟩

/-- The read is cancelled as the end of the body is delivered. -/
theorem cutShort_end {n : Nat} (hn : n = body.items.length) (hend : body.stalls = false)
    (hopen : (run {} (body.before n)).reading.stopped = false) :
    CutShort body (.delivering n) (run (CancelMoment.delivering n).plan body) := by
  have hnone := (tells_run {} (body.before n)).result hopen
  have hstruck := Session.take_struck hopen (CancelMoment.plan_delivering n) none
  have hfault : (CancelMoment.delivering n).fault? body = none := by
    simp [CancelMoment.fault?, List.getElem?_eq_none (Nat.le_of_eq hn.symm)]
  rw [run_delivering (Nat.le_of_eq hn), List.drop_of_length_le (Nat.le_of_eq hn.symm),
    Session.readFrom, await_before, if_neg (by simp [hend]), hstruck]
  simp only [Option.map_none, Option.getD_none]
  obtain ⟨-, ⟨hp, hclosed, hresult⟩ | ⟨hp, hreport⟩⟩ := close_cases (run {} (body.before n)).reading
  · rw [if_pos hp, hclosed]
    exact ⟨rfl, rfl, hresult.trans hnone, by simp only [hfault]; exact .inr rfl⟩
  · rw [if_neg hp]
    refine ⟨rfl, rfl, ?_, by simp only [hfault]; exact .inl rfl⟩
    exact (congrArg StreamReport.result hreport).trans hnone

/-- The read is cancelled as an item is delivered. -/
theorem cutShort_item {n : Nat} {item : BodyItem} {rest : List BodyItem}
    (hrest : body.items.drop n = item :: rest)
    (hopen : (run {} (body.before n)).reading.stopped = false) :
    CutShort body (.delivering n) (run (CancelMoment.delivering n).plan body) := by
  have hnone := (tells_run {} (body.before n)).result hopen
  have hstruck := Session.take_struck hopen (CancelMoment.plan_delivering n) (some item)
  have hitem : body.items[n]? = some item := by
    rw [← List.head?_drop, hrest]; rfl
  have hn : n < body.items.length := (List.getElem?_eq_some_iff.mp hitem).1
  rw [run_delivering (Nat.le_of_lt hn), hrest, Session.readFrom, await_before, hstruck]
  simp only [Option.map_some, Option.getD_some]
  cases item with
  | error e =>
      have hfault : (CancelMoment.delivering n).fault? body = some e := by
        simp [CancelMoment.fault?, hitem]
      have hp : ((run {} (body.before n)).reading.deliver (.error e)).pending = [] := rfl
      rw [if_pos hp, Session.readFrom_of_stopped rfl]
      exact ⟨rfl, rfl, hnone, by simp only [hfault]; rfl⟩
  | ok bs =>
      have hfault : (CancelMoment.delivering n).fault? body = none := by
        simp [CancelMoment.fault?, hitem]
      split
      · -- the read notices it when it waits for the next item
        let s' := run {} (body.before n)
        rw [Session.readFrom_cancelled
          (s := ⟨s'.reading.deliver (.ok bs), s'.calls, true⟩) hopen rfl]
        exact ⟨rfl, rfl, hnone, by simp only [hfault]; exact .inl rfl⟩
      · rw [Session.readFrom_of_stopped rfl]
        exact ⟨rfl, rfl, hnone, by simp only [hfault]; exact .inl rfl⟩

theorem cutShort_delivering {n : Nat} (h : Meets body (.delivering n)) :
    CutShort body (.delivering n) (run (CancelMoment.delivering n).plan body) := by
  obtain ⟨hn, hopen⟩ := h
  cases hrest : body.items.drop n with
  | nil =>
      have hlen : body.items.length ≤ n := List.drop_eq_nil_iff.mp hrest
      rcases hn with hn | ⟨hn, hend⟩
      · omega
      · exact cutShort_end hn hend hopen
  | cons item rest => exact cutShort_item hrest hopen

theorem cutShort_call {k : Nat} (h : Meets body (.call k)) :
    CutShort body (.call k) (run (CancelMoment.call k).plan body) := by
  rcases Session.Abreast.readFrom (s := {}) (.together rfl (Nat.zero_le k)) tells_start
    body.stalls 0 body.items with ⟨-, hle⟩ | ⟨hparted, hstopped⟩
  · exact absurd h (Nat.not_lt.mpr hle)
  · exact ⟨hstopped, hparted.calls, hparted.result, hparted.stop hstopped⟩

/-- What was told of by the moment is the first part of what an uncancelled read tells of. -/
theorem prefix_toldBy {m : CancelMoment} (h : Meets body m) :
    toldBy body m <+: (run {} body).calls := by
  have hbefore : ∀ {n}, n ≤ body.items.length →
      (run {} (body.before n)).calls <+: (run {} body).calls := by
    intro n hn
    rw [run_split hn ⟨fun _ _ _ => rfl, fun _ _ _ => rfl, fun _ => rfl⟩]
    exact Session.prefix_readFrom _ _ _ _
  cases m with
  | waiting n => exact hbefore h.1
  | delivering n => exact hbefore (by have := h.1; omega)
  | call k => exact List.take_prefix _ _

theorem cutShort (m : CancelMoment) (h : Meets body m) : CutShort body m (run m.plan body) := by
  cases m with
  | waiting n => exact cutShort_waiting h
  | delivering n => exact cutShort_delivering h
  | call k => exact cutShort_call h

/-- A read that does not come to the moment is the uncancelled one. -/
theorem run_of_not_meets {m : CancelMoment} (h : ¬ Meets body m) :
    run m.plan body = run {} body := by
  have hnever : ∀ i, Session.Quiet {} 0 i := fun _ =>
    ⟨fun _ _ _ => rfl, fun _ _ _ => rfl, fun _ => rfl⟩
  -- a read that has stopped before the moment is not affected
  have hover : ∀ {n}, n ≤ body.items.length → Session.Quiet m.plan 0 n →
      (run {} (body.before n)).reading.stopped = true → run m.plan body = run {} body := by
    intro n hn hquiet hstopped
    rw [run_split hn hquiet, run_split hn (hnever n), Session.readFrom_of_stopped hstopped,
      Session.readFrom_of_stopped hstopped]
  have hafter : Session.Quiet m.plan 0 (0 + body.items.length + 1) →
      run m.plan body = run {} body :=
    fun hquiet => Session.readFrom_quiet body.stalls hquiet {}
  cases m with
  | waiting n =>
      have hquiet : ∀ i, i ≤ n → Session.Quiet (CancelMoment.waiting n).plan 0 i := fun i hi =>
        ⟨fun j _ hj => decide_eq_false (by omega), fun _ _ _ => rfl, fun _ => rfl⟩
      by_cases hn : n ≤ body.items.length
      · exact hover hn (hquiet n (Nat.le_refl n))
          ((Bool.not_eq_false _).mp fun hopen => h ⟨hn, hopen⟩)
      · exact hafter (hquiet _ (by omega))
  | delivering n =>
      have hquiet : ∀ i, i ≤ n → Session.Quiet (CancelMoment.delivering n).plan 0 i := fun i hi =>
        ⟨fun _ _ _ => rfl, fun j _ hj => decide_eq_false (by omega), fun _ => rfl⟩
      by_cases hn : n < body.items.length ∨ n = body.items.length ∧ body.stalls = false
      · exact hover (by omega) (hquiet n (Nat.le_refl n))
          ((Bool.not_eq_false _).mp fun hopen => h ⟨hn, hopen⟩)
      · by_cases hlast : n = body.items.length
        · -- the body stalls, and its end is never delivered
          have hstalls : body.stalls = true := by
            have := mt (fun hs => Or.inr ⟨hlast, hs⟩) hn
            simpa using this
          rw [run_split (Nat.le_of_eq hlast) (hquiet n (Nat.le_refl n)),
            run_split (Nat.le_of_eq hlast) (hnever n), List.drop_of_length_le (by omega), hstalls]
          exact Session.await_quiet rfl _
        · exact hafter (hquiet _ (by omega))
  | call k =>
      rcases Session.Abreast.readFrom (s := {}) (.together rfl (Nat.zero_le k)) tells_start
        body.stalls 0 body.items with ⟨heq, -⟩ | ⟨hparted, -⟩
      · exact heq
      · exact absurd hparted.told h

end

/-- **A read that is cancelled at a moment tells of nothing from then on.**  Its calls are the first
ones of the uncancelled read, and its report shows no more than these calls and no final result; it
says that the read was cancelled or the body was over, or, when the moment is that at which an error
of the transport is delivered, that the read failed.  A read that does not come to the moment is not
affected. -/
theorem run_cancelled (body : Body) (m : CancelMoment) :
    let s := run m.plan body
    s.calls <+: (run {} body).calls ∧
      (Meets body m → CutShort body m s ∧
        s.reading.report.progress = (toldBy body m).getLast? ∧
        s.reading.report.framesApplied = (toldBy body m).length) ∧
      (¬ Meets body m → s = run {} body) := by
  intro s
  refine ⟨?_, fun h => ?_, run_of_not_meets⟩
  · by_cases h : Meets body m
    · rw [(cutShort m h).calls]
      exact prefix_toldBy h
    · show (run m.plan body).calls <+: (run {} body).calls
      rw [run_of_not_meets h]
  · have hcut := cutShort m h
    have hcounts := (tells_run m.plan body).counts hcut.result
    rw [hcut.calls] at hcounts
    exact ⟨hcut, hcounts⟩

/-- Two frames are told of in one chunk, and the read is cancelled inside the first call. -/
theorem run_cancelled_inside_call :
    let frame := "data: \x7b\"current\":1,\"total\":3\x7d\n\n"
    let body : Body := { items := [.ok (Utf8.ofText (frame ++ frame))] }
    Meets body (.call 0) ∧ CutShort body (.call 0) (run (CancelMoment.call 0).plan body) := by
  intro frame body
  have h : Meets body (.call 0) := by
    rw [Meets]; decide +kernel
  exact ⟨h, ((run_cancelled body (.call 0)).2.1 h).1⟩

/-- An error of the transport that is delivered to a read which is cancelled by then still makes it
fail; a chunk, or a frame that reports an error, would not. -/
theorem failed_as_cancelled :
    let body : Body := { items := [.error (.operationFailed "reset")] }
    Meets body (.delivering 0) ∧
      (run (CancelMoment.delivering 0).plan body).cancelled = true ∧
      (run (CancelMoment.delivering 0).plan body).reading.report.stop =
        .failed "Bridge operation failed: reset" := by
  refine ⟨⟨?_, rfl⟩, rfl, ?_⟩
  · exact .inl (by decide)
  · decide

end Reading

end MediaMonitor
