import MediaMonitor.Proofs.Deletion.Cancellation
import MediaMonitor.Proofs.Deletion.Frames

/-!
# What a report accounts for

A read can be cancelled at any moment, and it stops in many ways; still its report is never left
half made.  `Course` lists what a read can do, step by step, and which frames it has examined by
then.  At every moment of a course these frames account for the calls and for all that the report
says (`Course.account`).

The reads of `run`, whatever the plan, are courses, and they come to their end if the body does
(`exists_course`).
-/

namespace MediaMonitor.Reading

open StreamFrame

/-- What can have come of a read of a body: the items still to come, the session, and the frames
examined.  The read may be cancelled at any moment.  It stops for it when it needs an item or has a
frame to examine; otherwise it takes the next item or examines the next frame. -/
inductive Course (body : Body) : List BodyItem → Session → List Sse.Frame → Prop where
  | start : Course body body.items {} []
  | cancel {items : List BodyItem} {s : Session} {seen : List Sse.Frame}
      (h : Course body items s seen) : Course body items { s with cancelled := true } seen
  | stop {items : List BodyItem} {s : Session} {seen : List Sse.Frame}
      (h : Course body items s seen) (hs : s.reading.stopped = false) (hc : s.cancelled = true) :
      Course body items { s with reading := s.reading.halt .cancelled } seen
  | item {item : BodyItem} {rest : List BodyItem} {s : Session} {seen : List Sse.Frame}
      (h : Course body (item :: rest) s seen) (hw : s.reading.isWaiting = true)
      (hc : s.cancelled = false) :
      Course body rest { s with reading := s.reading.deliver item } seen
  | close {s : Session} {seen : List Sse.Frame}
      (h : Course body [] s seen) (hw : s.reading.isWaiting = true)
      (hc : s.cancelled = false) (hb : body.stalls = false) :
      Course body [] { s with reading := s.reading.close } seen
  | frame {f : Sse.Frame} {fs : List Sse.Frame} {items : List BodyItem} {s : Session}
      {seen : List Sse.Frame} (h : Course body items s seen) (hp : s.reading.pending = f :: fs)
      (hc : s.cancelled = false) :
      Course body items
        { s with
          reading := (applyFrame { s.reading with pending := fs } f).2
          calls := s.calls ++ (applyFrame { s.reading with pending := fs } f).1.toList }
        (seen ++ [f])

/-- How the calls and a report account for the frames examined. -/
structure Account (body : Body) (calls : List DeleteProgress) (report : StreamReport)
    (seen : List Sse.Frame) : Prop where
  /-- The frames examined are the first ones of the body. -/
  examined : seen <+: dispatched {} {} body.items
  /-- No frame is examined behind a final one. -/
  last : ∀ f ∈ seen.dropLast, isFinal f = false
  /-- Each frame that tells of progress is told of. -/
  told : calls = seen.filterMap told?
  progress : report.progress = calls.getLast?
  result : report.result.toList = seen.filterMap result?
  finished : report.result.isSome = true ↔ report.stop = .finished
  applied : report.framesApplied = calls.length + if report.stop = .finished then 1 else 0
  skipped : report.skippedFrames = seen.countP isRejected
  failed : ∀ reason ∈ seen.filterMap reason?, report.stop = .failed reason

/-- What holds at every moment of a read: all is accounted for, and an open read has not examined a
final frame and has the rest of the frames ahead.  So none is left at the end of the body. -/
structure OnCourse (body : Body) (items : List BodyItem) (s : Session) (seen : List Sse.Frame) :
    Prop where
  account : Account body s.calls s.reading.report seen
  tidy : s.reading.stopped = true → s.reading.pending = []
  nonfinal : s.reading.stopped = false → ∀ f ∈ seen, isFinal f = false
  ahead : s.reading.stopped = false → seen ++ (s.reading.pending ++
    if s.reading.bodyOver then [] else dispatched s.reading.decoder s.reading.parser items) =
      dispatched {} {} body.items
  ended : s.reading.bodyOver = true → s.reading.pending = [] → s.reading.stopped = true
  closed : s.reading.stopped = true → s.reading.report.stop = .closed →
    seen = dispatched {} {} body.items

/-! ### One step -/

section
variable {body : Body} {calls : List DeleteProgress} {report : StreamReport}
  {seen : List Sse.Frame}

theorem account_start (body : Body) : Account body [] {} [] where
  examined := List.nil_prefix
  last := nofun
  told := rfl
  progress := rfl
  result := rfl
  finished := ⟨nofun, nofun⟩
  applied := rfl
  skipped := rfl
  failed := nofun

theorem filterMap_of_nonfinal (h : ∀ f ∈ seen, isFinal f = false) :
    seen.filterMap result? = [] ∧ seen.filterMap reason? = [] := by
  simp only [isFinal, Bool.or_eq_false_iff, Option.isSome_eq_false_iff, Option.isNone_iff_eq_none]
    at h
  exact ⟨List.filterMap_eq_nil_iff.mpr fun f hf => (h f hf).1,
    List.filterMap_eq_nil_iff.mpr fun f hf => (h f hf).2⟩

/-- Without a final frame there is no result. -/
theorem Account.unfinished (h : Account body calls report seen)
    (hn : ∀ f ∈ seen, isFinal f = false) :
    report.result = none ∧ report.stop ≠ .finished ∧ report.framesApplied = calls.length := by
  have hnone : report.result = none :=
    Option.toList_eq_nil_iff.mp (h.result.trans (filterMap_of_nonfinal hn).1)
  have hstop : report.stop ≠ .finished := fun he => by
    simpa [hnone] using h.finished.mpr he
  exact ⟨hnone, hstop, by rw [h.applied, if_neg hstop, Nat.add_zero]⟩

/-- The read ends without a final frame. -/
theorem Account.halt (h : Account body calls report seen) (hn : ∀ f ∈ seen, isFinal f = false)
    {stop : StreamEnd} (hstop : stop ≠ .finished) :
    Account body calls { report with stop := stop } seen := by
  obtain ⟨hnone, -, happlied⟩ := h.unfinished hn
  refine { h with finished := ?_, applied := ?_, failed := ?_ }
  · simp [hnone, hstop]
  · simp [happlied, hstop]
  · simp [(filterMap_of_nonfinal hn).2]

/-- One more frame is examined. -/
theorem Account.concat (h : Account body calls report seen) (hn : ∀ f ∈ seen, isFinal f = false)
    {f : Sse.Frame} (hf : seen ++ [f] <+: dispatched {} {} body.items) :
    Account body (calls ++ (told? f).toList) (noted report f) (seen ++ [f]) := by
  obtain ⟨hnone, hstop, happlied⟩ := h.unfinished hn
  obtain ⟨-, hreasons⟩ := filterMap_of_nonfinal hn
  have hlast : ∀ g ∈ (seen ++ [f]).dropLast, isFinal g = false := by simpa using hn
  rcases hd : ofFrame f with fault | (p | result | reason)
  · obtain ⟨htold, hresult, hreason, hrejected⟩ := of_fault hd
    simp only [noted, hd]
    exact ⟨hf, hlast, by simp [h.told, htold], by simp [h.progress, htold],
      by simp [h.result, hresult], h.finished, by simp [happlied, hstop, htold],
      by simp [h.skipped, hrejected], by simp [hreasons, hreason]⟩
  · obtain ⟨htold, hresult, hreason, hrejected⟩ := of_progress hd
    simp only [noted, hd]
    exact ⟨hf, hlast, by simp [h.told, htold], by simp [htold],
      by simp [h.result, hresult], h.finished, by simp [happlied, hstop, htold],
      by simp [h.skipped, hrejected], by simp [hreasons, hreason]⟩
  · obtain ⟨htold, hresult, hreason, hrejected⟩ := of_complete hd
    simp only [noted, hd]
    exact ⟨hf, hlast, by simp [h.told, htold], by simp [h.progress, htold],
      by simp [← h.result, hnone, hresult], by simp, by simp [happlied, htold],
      by simp [h.skipped, hrejected], by simp [hreasons, hreason]⟩
  · obtain ⟨htold, hresult, hreason, hrejected⟩ := of_error hd
    simp only [noted, hd]
    exact ⟨hf, hlast, by simp [h.told, htold], by simp [h.progress, htold],
      by simp [h.result, hresult], by simp [hnone], by simp [happlied, htold],
      by simp [h.skipped, hrejected], by simp [hreasons, hreason]⟩

/-- Each frame examined is counted once, as applied or as skipped, but for one that reports that the
deletion broke off. -/
theorem Account.counted (h : Account body calls report seen) :
    seen.length =
        report.framesApplied + report.skippedFrames + (seen.filterMap reason?).length ∧
      (seen.filterMap reason?).length ≤ 1 := by
  have hlength := StreamFrame.length_eq seen
  have happlied := h.applied
  have hskipped := h.skipped
  rw [← h.told, ← h.result] at hlength
  have hresult : report.result.toList.length = if report.stop = .finished then 1 else 0 := by
    cases hr : report.result with
    | none => rw [if_neg fun hs => by simpa [hr] using h.finished.mpr hs]; rfl
    | some result => rw [if_pos (h.finished.mp (by rw [hr]; rfl))]; rfl
  refine ⟨by omega, ?_⟩
  have hnone := (filterMap_of_nonfinal h.last).2
  rcases List.eq_nil_or_concat' seen with rfl | ⟨before, f, rfl⟩
  · exact Nat.zero_le 1
  · rw [List.dropLast_concat] at hnone
    rw [List.filterMap_append, hnone, List.nil_append]
    exact List.length_filterMap_le _ _

end

section
variable {body : Body} {items : List BodyItem} {s : Session} {seen : List Sse.Frame}

theorem onCourse_start (body : Body) : OnCourse body body.items {} [] :=
  ⟨account_start body, nofun, fun _ => nofun, fun _ => rfl, nofun, nofun⟩

/-- A read that has frames to examine is open. -/
theorem OnCourse.open_of_pending (h : OnCourse body items s seen) (hp : s.reading.pending ≠ []) :
    s.reading.stopped = false :=
  Bool.eq_false_iff.mpr fun hs => hp (h.tidy hs)

/-- A read that needs an item is open, and its body is not over. -/
theorem OnCourse.open_of_waiting (h : OnCourse body items s seen)
    (hw : s.reading.isWaiting = true) :
    s.reading.stopped = false ∧ s.reading.pending = [] ∧ s.reading.bodyOver = false := by
  simp only [isWaiting, Bool.and_eq_true, Bool.not_eq_true', List.isEmpty_iff] at hw
  exact ⟨hw.1, hw.2, Bool.eq_false_iff.mpr fun hb => by simpa [hw.1] using h.ended hb hw.2⟩

/-- A read that has stopped. -/
theorem onCourse_stopped (haccount : Account body s.calls s.reading.report seen)
    (hs : s.reading.stopped = true) (hp : s.reading.pending = [])
    (hclosed : s.reading.report.stop = .closed → seen = dispatched {} {} body.items) :
    OnCourse body items s seen :=
  ⟨haccount, fun _ => hp, fun h => absurd h (by simp [hs]), fun h => absurd h (by simp [hs]),
    fun _ _ => hs, fun _ => hclosed⟩

/-- A read that is open. -/
theorem onCourse_open (haccount : Account body s.calls s.reading.report seen)
    (hs : s.reading.stopped = false) (hn : ∀ f ∈ seen, isFinal f = false)
    (hahead : seen ++ (s.reading.pending ++
      if s.reading.bodyOver then [] else dispatched s.reading.decoder s.reading.parser items) =
        dispatched {} {} body.items)
    (hended : s.reading.bodyOver = true → s.reading.pending ≠ []) :
    OnCourse body items s seen :=
  ⟨haccount, fun h => absurd h (by simp [hs]), fun _ => hn, fun _ => hahead,
    fun hb hp => absurd hp (hended hb), fun h => absurd h (by simp [hs])⟩

theorem OnCourse.item {item : BodyItem} (h : OnCourse body (item :: items) s seen)
    (hw : s.reading.isWaiting = true) :
    OnCourse body items { s with reading := s.reading.deliver item } seen := by
  obtain ⟨hs, hp, hb⟩ := h.open_of_waiting hw
  cases item with
  | error e => exact onCourse_stopped (h.account.halt (h.nonfinal hs) nofun) rfl rfl nofun
  | ok bs =>
      have hahead := h.ahead hs
      rw [hp, hb] at hahead
      refine onCourse_open h.account hs (h.nonfinal hs) ?_ fun hb' => ?_
      · simpa [deliver, dispatched, hb] using hahead
      · exact absurd hb' (by simp [deliver, hb])

theorem OnCourse.close (h : OnCourse body [] s seen) (hw : s.reading.isWaiting = true) :
    OnCourse body [] { s with reading := s.reading.close } seen := by
  obtain ⟨hs, hp, hb⟩ := h.open_of_waiting hw
  have hahead := h.ahead hs
  rw [hp, hb] at hahead
  rw [close_eq]
  dsimp only
  split
  · rename_i hlast
    refine onCourse_stopped (h.account.halt (h.nonfinal hs) (by decide)) rfl rfl fun _ => ?_
    have hnone : s.reading.parser.frames (lastText { decoder := s.reading.decoder }) = [] := hlast
    simpa [dispatched, hnone] using hahead
  · rename_i hlast
    refine onCourse_open h.account hs (h.nonfinal hs) ?_ fun _ => hlast
    simpa [dispatched, lastText] using hahead

/-- A frame was examined that is not final; it ends the read if it is the last one. -/
theorem onCourse_settle (haccount : Account body s.calls s.reading.report seen)
    (hs : s.reading.stopped = false) (hn : ∀ f ∈ seen, isFinal f = false)
    (hahead : seen ++ (s.reading.pending ++
      if s.reading.bodyOver then [] else dispatched s.reading.decoder s.reading.parser items) =
        dispatched {} {} body.items) :
    OnCourse body items { s with reading := s.reading.settle } seen := by
  rw [Reading.settle]
  split
  · rename_i hlast
    refine onCourse_stopped (haccount.halt hn (by decide)) rfl rfl fun _ => ?_
    simpa [hlast.1, hlast.2] using hahead
  · rename_i hgoes
    exact onCourse_open haccount hs hn hahead fun hb hp => hgoes ⟨hp, hb⟩

theorem OnCourse.frame {f : Sse.Frame} {fs : List Sse.Frame} (h : OnCourse body items s seen)
    (hp : s.reading.pending = f :: fs) :
    OnCourse body items
      { s with
        reading := (applyFrame { s.reading with pending := fs } f).2
        calls := s.calls ++ (applyFrame { s.reading with pending := fs } f).1.toList }
      (seen ++ [f]) := by
  have hs := h.open_of_pending (by simp [hp])
  have hn := h.nonfinal hs
  have hahead := h.ahead hs
  rw [hp, List.cons_append, List.append_cons] at hahead
  have hf : seen ++ [f] <+: dispatched {} {} body.items := ⟨_, hahead⟩
  have haccount := h.account.concat hn hf
  rw [applyFrame_eq]
  cases hfinal : isFinal f with
  | true => exact onCourse_stopped haccount rfl rfl fun hc => absurd hc (stop_noted hfinal)
  | false =>
      refine onCourse_settle (s := ⟨{ s.reading with
        report := noted s.reading.report f, pending := fs }, _, s.cancelled⟩) haccount hs ?_ hahead
      intro g hg
      rcases List.mem_append.mp hg with hg | hg
      · exact hn g hg
      · rw [List.mem_singleton.mp hg, hfinal]

/-! ### A whole course -/

theorem Course.onCourse (h : Course body items s seen) : OnCourse body items s seen := by
  induction h with
  | start => exact onCourse_start body
  | cancel _ ih => exact ⟨ih.account, ih.tidy, ih.nonfinal, ih.ahead, ih.ended, ih.closed⟩
  | stop _ hs _ ih =>
      exact onCourse_stopped (ih.account.halt (ih.nonfinal hs) nofun) rfl rfl nofun
  | item _ hw _ ih => exact ih.item hw
  | close _ hw _ _ ih => exact ih.close hw
  | frame _ hp _ ih => exact ih.frame hp

/-! ### The reads of `run` -/

/-- The read is cancelled, or it is not. -/
theorem Course.cancelIf (h : Course body items s seen) (b : Bool) :
    Course body items { s with cancelled := s.cancelled || b } seen := by
  cases b with
  | true => rw [Bool.or_true]; exact h.cancel
  | false => rwa [Bool.or_false]

/-- Applying pending frames is a part of a course. -/
theorem Course.drain (h : Course body items s seen) (plan : CancelPlan) (k : Nat) :
    ∃ seen', Course body items (Session.drain plan k s) seen' := by
  induction k generalizing s seen with
  | zero => exact ⟨seen, h⟩
  | succ k ih =>
      cases hp : s.reading.pending with
      | nil => rw [Session.drain_of_pending_eq_nil hp]; exact ⟨seen, h⟩
      | cons f fs =>
          cases hc : s.cancelled with
          | true =>
              rw [Session.drain]
              have hs := h.onCourse.open_of_pending (by simp [hp])
              simpa [applyNext, hp, hc] using ih (h.stop hs hc)
          | false =>
              have hframe := h.frame hp hc
              rw [Session.drain_frame hp hc]
              rw [applyFrame_eq] at hframe ⊢
              simpa [hc] using
                ih (hframe.cancelIf ((told? f).isSome && plan.call (s.calls.length + 1)))

theorem pending_drain {plan : CancelPlan} {k : Nat} (h : s.reading.pending.length ≤ k) :
    (Session.drain plan k s).reading.pending = [] := by
  induction k generalizing s with
  | zero => exact List.length_eq_zero_iff.mp (Nat.le_zero.mp h)
  | succ k ih =>
      have hlen := length_pending_applyNext s.reading s.cancelled
      rw [Session.drain]
      dsimp only
      split
      · exact ih (s := ⟨_, _, _⟩) (by dsimp only; omega)
      · exact ih (s := ⟨_, _, _⟩) (by dsimp only; omega)

/-- The read is between two items: it has stopped, or the rest of the body is still to come. -/
def Between (body : Body) (rest : List BodyItem) (s : Session) : Prop :=
  ∃ items seen, Course body items s seen ∧ s.reading.pending = [] ∧
    (s.reading.stopped = false → items = rest)

theorem Between.await {rest : List BodyItem} (h : Between body rest s) (plan : CancelPlan)
    (n : Nat) : Between body rest (s.await plan n) := by
  obtain ⟨items, seen, hcourse, hp, hrest⟩ := h
  rw [Session.await]
  split
  · exact ⟨items, seen, hcourse, hp, hrest⟩
  · rename_i hs
    split
    · exact ⟨items, seen, hcourse.cancel.stop (by simpa using hs) rfl, rfl,
        fun hs' => absurd hs' (by simp [halt])⟩
    · exact ⟨items, seen, hcourse, hp, hrest⟩

/-- The frames of what was taken are dealt with. -/
theorem Course.between {r : Reading} (h : Course body items { s with reading := r } seen)
    (plan : CancelPlan) (b : Bool) :
    Between body items
      (Session.drainAll plan { s with reading := r, cancelled := s.cancelled || b }) := by
  obtain ⟨seen', hdrain⟩ := (h.cancelIf b).drain plan r.pending.length
  exact ⟨items, seen', hdrain, pending_drain (Nat.le_refl _), fun _ => rfl⟩

section
variable (plan : CancelPlan) (n : Nat) (hc : s.cancelled = true → s.reading.stopped = true)
include hc

theorem Between.takeItem {item : BodyItem} {rest : List BodyItem}
    (h : Between body (item :: rest) s) : Between body rest (s.take plan n (some item)) := by
  obtain ⟨items, seen, hcourse, hp, hrest⟩ := h
  cases hs : s.reading.stopped with
  | true =>
      rw [Session.take_of_stopped hs]
      exact ⟨items, seen, hcourse, hp, fun hs' => absurd hs' (by simp [hs])⟩
  | false =>
      have hw : s.reading.isWaiting = true := by simp [isWaiting, hs, hp]
      have hc' : s.cancelled = false := Bool.eq_false_iff.mpr fun h' => by simpa [hs] using hc h'
      rw [hrest hs] at hcourse
      rw [Session.take_of_open hs]
      exact (hcourse.item hw hc').between plan _

/-- The end of the body ends the read. -/
theorem Between.takeEnd (h : Between body [] s) (hb : body.stalls = false) :
    Between body [] (s.take plan n none) ∧ (s.take plan n none).reading.stopped = true := by
  obtain ⟨items, seen, hcourse, hp, hrest⟩ := h
  cases hs : s.reading.stopped with
  | true =>
      rw [Session.take_of_stopped hs]
      exact ⟨⟨items, seen, hcourse, hp, fun hs' => absurd hs' (by simp [hs])⟩, hs⟩
  | false =>
      have hw : s.reading.isWaiting = true := by simp [isWaiting, hs, hp]
      have hc' : s.cancelled = false := Bool.eq_false_iff.mpr fun h' => by simpa [hs] using hc h'
      rw [hrest hs] at hcourse
      rw [Session.take_of_open hs]
      have hbetween := (hcourse.close hw hc' hb).between plan (plan.delivering n)
      refine ⟨hbetween, ?_⟩
      obtain ⟨_, _, hlast, hp', -⟩ := hbetween
      refine hlast.onCourse.ended ?_ hp'
      exact (Session.bodyOver_drain _ _).trans (close_cases _).1

end

/-- A read by a plan is a course; it comes to its end if the body does. -/
theorem Between.readFrom {rest : List BodyItem} (h : Between body rest s) (plan : CancelPlan)
    (n : Nat) :
    let s' := Session.readFrom plan body.stalls n rest s
    (∃ items seen, Course body items s' seen) ∧
      (body.stalls = false → s'.reading.stopped = true) := by
  induction rest generalizing n s with
  | nil =>
      have hawait := h.await plan n
      simp only [Session.readFrom]
      split
      · rename_i hstalls
        obtain ⟨items, seen, hcourse, -⟩ := hawait
        exact ⟨⟨items, seen, hcourse⟩, fun hb => absurd hb (by simp [hstalls])⟩
      · rename_i hstalls
        obtain ⟨⟨items, seen, hcourse, -⟩, hstopped⟩ :=
          hawait.takeEnd plan n (Session.stopped_await plan n s) (by simpa using hstalls)
        exact ⟨⟨items, seen, hcourse⟩, fun _ => hstopped⟩
  | cons item rest ih =>
      have hawait := h.await plan n
      exact ih (hawait.takeItem plan n (Session.stopped_await plan n s)) (n + 1)

/-- **The reads of `run` are courses**, and they come to their end if the body does. -/
theorem exists_course (plan : CancelPlan) (body : Body) :
    (∃ items seen, Course body items (run plan body) seen) ∧
      (body.stalls = false → (run plan body).reading.stopped = true) :=
  Between.readFrom ⟨body.items, [], .start, rfl, fun _ => rfl⟩ plan 0

end

end MediaMonitor.Reading
