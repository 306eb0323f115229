import MediaMonitor.Deletion.Reading
import MediaMonitor.Proofs.Sse.Parser
import MediaMonitor.Proofs.Text.Utf8

/-!
# What a read makes of a body

A read takes a body item by item and applies its frames one by one; where one item ends and the next
one begins is of no consequence.  `digest` says what a list of frames amounts to, and `dispatched`
which frames a body holds up to its end or the first error of the transport.  An uncancelled read
tells of the progress in the digest of these frames, and reports what the digest reports
(`run_eq`).

So a text may be cut into chunks anywhere, inside a character, between a carriage return and its
line feed, or inside a field, and a blank line may be missing at its end (`run_chunks_irrelevant`).
-/

namespace MediaMonitor.Reading

/-! ### The digest of a list of frames -/

/-- What a list of frames amounts to: the progress told of, the report, and whether one of the
frames was final. -/
structure Digest where
  calls : List DeleteProgress
  report : StreamReport
  final : Bool

/-- What a list of frames amounts to, behind a report. -/
def digest (report : StreamReport) : List Sse.Frame → Digest
  | [] => ⟨[], report, false⟩
  | frame :: rest =>
      match StreamFrame.ofFrame frame with
      | .ok (.progress p) =>
          let d := digest { report with
            progress := some p, framesApplied := report.framesApplied + 1 } rest
          { d with calls := p :: d.calls }
      | .ok (.complete result) =>
          ⟨[], { report with
            result := some result, stop := .finished, framesApplied := report.framesApplied + 1 },
            true⟩
      | .ok (.error reason) => ⟨[], { report with stop := .failed reason }, true⟩
      | .error _ => digest { report with skippedFrames := report.skippedFrames + 1 } rest

section
variable {report : StreamReport} {frame : Sse.Frame} {rest : List Sse.Frame}

theorem digest_progress {p : DeleteProgress} (h : StreamFrame.ofFrame frame = .ok (.progress p)) :
    digest report (frame :: rest) =
      let d := digest { report with
        progress := some p, framesApplied := report.framesApplied + 1 } rest
      { d with calls := p :: d.calls } := by
  rw [digest, h]

theorem digest_complete {result : BulkDeleteResult}
    (h : StreamFrame.ofFrame frame = .ok (.complete result)) :
    digest report (frame :: rest) = ⟨[], { report with
      result := some result, stop := .finished, framesApplied := report.framesApplied + 1 },
      true⟩ := by
  rw [digest, h]

theorem digest_error {reason : String} (h : StreamFrame.ofFrame frame = .ok (.error reason)) :
    digest report (frame :: rest) = ⟨[], { report with stop := .failed reason }, true⟩ := by
  rw [digest, h]

theorem digest_skipped {fault : FrameFault} (h : StreamFrame.ofFrame frame = .error fault) :
    digest report (frame :: rest) =
      digest { report with skippedFrames := report.skippedFrames + 1 } rest := by
  rw [digest, h]

end

/-- The frames behind a final one are of no consequence. -/
theorem digest_append_of_final {report : StreamReport} {xs : List Sse.Frame}
    (h : (digest report xs).final = true) (ys : List Sse.Frame) :
    digest report (xs ++ ys) = digest report xs := by
  induction xs generalizing report with
  | nil => cases h
  | cons frame xs ih =>
      rw [List.cons_append]
      rcases hf : StreamFrame.ofFrame frame with fault | (p | result | reason)
      · rw [digest_skipped hf] at h ⊢
        rw [digest_skipped hf, ih h]
      · rw [digest_progress hf] at h ⊢
        rw [digest_progress hf, ih h]
      · rw [digest_complete hf, digest_complete hf]
      · rw [digest_error hf, digest_error hf]

/-- Without a final frame, the digest goes on behind the report. -/
theorem digest_append {report : StreamReport} {xs : List Sse.Frame}
    (h : (digest report xs).final = false) (ys : List Sse.Frame) :
    digest report (xs ++ ys) =
      { digest (digest report xs).report ys with
        calls := (digest report xs).calls ++ (digest (digest report xs).report ys).calls } := by
  induction xs generalizing report with
  | nil => rfl
  | cons frame xs ih =>
      rw [List.cons_append]
      rcases hf : StreamFrame.ofFrame frame with fault | (p | result | reason)
      · rw [digest_skipped hf] at h ⊢
        rw [digest_skipped hf, ih h]
      · rw [digest_progress hf] at h ⊢
        rw [digest_progress hf, ih h]
        rfl
      · rw [digest_complete hf] at h; cases h
      · rw [digest_error hf] at h; cases h

/-! ### The frames of one item -/

/-- Applies so many pending frames, without being cancelled: the progress told of, and the read
after it. -/
def applyMany : Nat → Reading → List DeleteProgress × Reading
  | 0, r => ([], r)
  | n + 1, r =>
      let step := r.applyNext false
      let rest := applyMany n step.2
      (step.1.toList ++ rest.1, rest.2)

/-- Applies all pending frames. -/
def applyPending (r : Reading) : List DeleteProgress × Reading := applyMany r.pending.length r

/-- The read after its pending frames were applied. -/
def digested (r : Reading) : Reading :=
  let d := digest r.report r.pending
  if d.final then { r with report := d.report, pending := [], stopped := true }
  else settle { r with report := d.report, pending := [] }

theorem applyMany_of_pending_eq_nil {r : Reading} (h : r.pending = []) (n : Nat) :
    applyMany n r = ([], r) := by
  induction n with
  | zero => rfl
  | succ n ih => simp [applyMany, applyNext, h, ih]

/-- A read that has frames to apply goes on. -/
theorem settle_of_pending {r : Reading} (h : r.pending ≠ []) : r.settle = r := by
  rw [settle, if_neg (fun h' => h h'.1)]

/-- A read whose body goes on goes on. -/
theorem settle_of_open {r : Reading} (h : r.bodyOver = false) : r.settle = r := by
  rw [settle, if_neg (by simp [h])]

section
variable {r : Reading} {frame : Sse.Frame}

theorem applyFrame_progress {p : DeleteProgress}
    (h : StreamFrame.ofFrame frame = .ok (.progress p)) :
    r.applyFrame frame = (some p, settle { r with report := { r.report with
      progress := some p, framesApplied := r.report.framesApplied + 1 } }) := by
  rw [applyFrame, h]

theorem applyFrame_complete {result : BulkDeleteResult}
    (h : StreamFrame.ofFrame frame = .ok (.complete result)) :
    r.applyFrame frame = (none, halt { r with report := { r.report with
      result := some result, framesApplied := r.report.framesApplied + 1 } } .finished) := by
  rw [applyFrame, h]

theorem applyFrame_error {reason : String} (h : StreamFrame.ofFrame frame = .ok (.error reason)) :
    r.applyFrame frame = (none, r.halt (.failed reason)) := by
  rw [applyFrame, h]

theorem applyFrame_skipped {fault : FrameFault} (h : StreamFrame.ofFrame frame = .error fault) :
    r.applyFrame frame = (none, settle { r with report := { r.report with
      skippedFrames := r.report.skippedFrames + 1 } }) := by
  rw [applyFrame, h]

end

/-- **The pending frames are applied as their digest says.**  At the end of the body there are some,
or the read has stopped by then. -/
theorem applyPending_eq {r : Reading} (hp : r.bodyOver = true → r.pending ≠ []) :
    r.applyPending = ((digest r.report r.pending).calls, r.digested) := by
  obtain ⟨decoder, parser, report, pending, bodyOver, stopped⟩ := r
  rw [applyPending]
  dsimp only at hp ⊢
  induction pending generalizing report with
  | nil =>
      have h : bodyOver = false := by simpa using hp
      simp [applyMany, digested, digest, settle_of_open, h]
  | cons frame rest ih =>
      -- the read after a frame that was not final
      have go : ∀ report : StreamReport,
          applyMany rest.length (settle ⟨decoder, parser, report, rest, bodyOver, stopped⟩) =
            ((digest report rest).calls,
              digested ⟨decoder, parser, report, rest, bodyOver, stopped⟩) := by
        intro report
        by_cases h : rest = []
        · subst h; rfl
        · rw [settle_of_pending h]
          exact ih report (fun _ => h)
      rw [List.length_cons, applyMany]
      simp only [applyNext, Bool.false_eq_true, if_false]
      rcases hf : StreamFrame.ofFrame frame with fault | (p | result | reason)
      · rw [applyFrame_skipped hf]
        simp only [go, digested, digest_skipped hf]
        rfl
      · rw [applyFrame_progress hf]
        simp only [go, digested, digest_progress hf]
        rfl
      · rw [applyFrame_complete hf, applyMany_of_pending_eq_nil rfl]
        simp only [digested, digest_complete hf]
        rfl
      · rw [applyFrame_error hf, applyMany_of_pending_eq_nil rfl]
        simp only [digested, digest_error hf]
        rfl

theorem digested_of_final {r : Reading} (h : (digest r.report r.pending).final = true) :
    r.digested = { r with
      report := (digest r.report r.pending).report, pending := [], stopped := true } := by
  rw [digested, if_pos h]

theorem digested_of_open {r : Reading} (h : (digest r.report r.pending).final = false)
    (hb : r.bodyOver = false) :
    r.digested = { r with report := (digest r.report r.pending).report, pending := [] } := by
  rw [digested, if_neg (by simp [h])]; exact settle_of_open hb

theorem digested_of_over {r : Reading} (h : (digest r.report r.pending).final = false)
    (hb : r.bodyOver = true) :
    r.digested = { r with
      report := { (digest r.report r.pending).report with stop := .closed }
      pending := []
      stopped := true } := by
  rw [digested, if_neg (by simp [h])]; rw [settle, if_pos ⟨rfl, hb⟩]; rfl

/-! ### A whole body -/

/-- The frames of a body: those of its chunks, up to the first error of the transport, and at the
end of the body those of what the last chunk cut short. -/
def dispatched (decoder : Utf8.Decoder) (parser : Sse.Parser) : List BodyItem → List Sse.Frame
  | [] => parser.frames (lastText { decoder := decoder })
  | .ok bs :: rest =>
      let text := decoder.push bs
      let frames := parser.push text.1
      frames.1 ++ dispatched text.2 frames.2 rest
  | .error _ :: _ => []

/-- How a body ends a read that none of its frames ends. -/
def bodyStop : List BodyItem → StreamEnd
  | [] => .closed
  | .ok _ :: rest => bodyStop rest
  | .error e :: _ => .failed e.message

/-- The report of a read. -/
def conclusion (d : Digest) (stop : StreamEnd) : StreamReport :=
  if d.final then d.report else { d.report with stop := stop }

/-- A read that waits for the next item of a body. -/
structure Idle (r : Reading) : Prop where
  stopped : r.stopped = false
  pending : r.pending = []
  bodyOver : r.bodyOver = false

theorem idle_start : Idle {} := ⟨rfl, rfl, rfl⟩

theorem Idle.isWaiting {r : Reading} (h : Idle r) : r.isWaiting = true := by
  simp [Reading.isWaiting, h.stopped, h.pending]

/-- Reads the rest of a body, without being cancelled: the progress told of, and the read at its
end. -/
def readAll (r : Reading) : List BodyItem → List DeleteProgress × Reading
  | [] => r.close.applyPending
  | item :: rest =>
      let step := (r.deliver item).applyPending
      if step.2.stopped then step
      else
        let later := readAll step.2 rest
        (step.1 ++ later.1, later.2)

/-- A chunk leaves the read waiting, unless one of its frames was final. -/
theorem deliver_ok {r : Reading} (h : Idle r) (bs : List UInt8) :
    (r.deliver (.ok bs)).applyPending =
      let text := r.decoder.push bs
      let frames := r.parser.push text.1
      let d := digest r.report frames.1
      (d.calls, { r with
        decoder := text.2, parser := frames.2, report := d.report, stopped := d.final }) := by
  have hb : (r.deliver (.ok bs)).bodyOver = false := h.bodyOver
  rw [applyPending_eq (by simp [hb])]
  refine Prod.ext rfl ?_
  cases hf : (digest (r.deliver (.ok bs)).report (r.deliver (.ok bs)).pending).final with
  | true =>
      rw [digested_of_final hf]
      simp only [deliver, h.pending] at hf ⊢
      rw [hf]
  | false =>
      rw [digested_of_open hf hb]
      simp only [deliver, h.pending, h.stopped] at hf ⊢
      rw [hf]

/-- An error of the transport ends the read. -/
theorem deliver_error {r : Reading} (h : Idle r) (e : BridgeError) :
    (r.deliver (.error e)).applyPending =
      ([], { r with report := { r.report with stop := .failed e.message }, stopped := true }) := by
  rw [applyPending_eq (by simp [deliver, halt, h.bodyOver])]
  simp [deliver, halt, digested, digest, settle, h.pending, h.bodyOver]

/-- A read that has not stopped with an item waits for the next one. -/
theorem Idle.next {r : Reading} (h : Idle r) {item : BodyItem}
    (hs : (r.deliver item).applyPending.2.stopped = false) :
    Idle (r.deliver item).applyPending.2 := by
  cases item with
  | error e => rw [deliver_error h] at hs; cases hs
  | ok bs => rw [deliver_ok h] at hs ⊢; exact ⟨hs, h.pending, h.bodyOver⟩

/-- The end of the body brings the frames of what was cut short; without any, it ends the read. -/
theorem close_eq (r : Reading) :
    r.close =
      let q : Reading := { r with
        decoder := {}
        parser := (r.parser.push r.lastText).2.finish.2
        pending := r.parser.frames r.lastText
        bodyOver := true }
      if r.parser.frames r.lastText = [] then q.halt .closed else q :=
  rfl

/-- The end of the body ends the read, whatever frames it still brings. -/
theorem close_applyPending (r : Reading) :
    let d := digest r.report (r.parser.frames r.lastText)
    (r.close.applyPending).1 = d.calls ∧ (r.close.applyPending).2.stopped = true ∧
      (r.close.applyPending).2.report = conclusion d .closed := by
  intro d
  by_cases hp : r.parser.frames r.lastText = []
  · have hd : d = ⟨[], r.report, false⟩ := by simp only [d, hp, digest]
    have hc : r.close.pending = [] ∧ r.close.stopped = true ∧
        r.close.report = { r.report with stop := .closed } := by
      simp [close_eq, hp, halt]
    rw [applyPending, applyMany_of_pending_eq_nil hc.1, hd]
    exact ⟨rfl, hc.2.1, hc.2.2⟩
  · have hc : r.close.pending = r.parser.frames r.lastText ∧ r.close.bodyOver = true ∧
        r.close.report = r.report := by
      simp [close_eq, hp]
    rw [applyPending_eq (fun _ => by rw [hc.1]; exact hp), hc.1, hc.2.2]
    have hd : digest r.close.report r.close.pending = d := by rw [hc.1, hc.2.2]
    refine ⟨rfl, ?_⟩
    cases hf : d.final with
    | true =>
        rw [digested_of_final (hd ▸ hf), hd, conclusion, if_pos hf]
        exact ⟨rfl, rfl⟩
    | false =>
        rw [digested_of_over (hd ▸ hf) hc.2.1, hd, conclusion, if_neg (by simp [hf])]
        exact ⟨rfl, rfl⟩

/-- **An uncancelled read of a body**: the progress in the digest of its frames, and the report of
that digest. -/
theorem readAll_eq {r : Reading} (h : Idle r) (items : List BodyItem) :
    let d := digest r.report (dispatched r.decoder r.parser items)
    (r.readAll items).1 = d.calls ∧ (r.readAll items).2.stopped = true ∧
      (r.readAll items).2.report = conclusion d (bodyStop items) := by
  -- by induction on the body: between two items the read is idle
  induction items generalizing r with
  | nil => exact close_applyPending r
  | cons item rest ih =>
      rw [readAll]
      cases item with
      | error e =>
          rw [deliver_error h]
          exact ⟨rfl, rfl, rfl⟩
      | ok bs =>
          rw [deliver_ok h]
          simp only [dispatched, bodyStop]
          generalize r.parser.push (r.decoder.push bs).1 = frames
          cases hf : (digest r.report frames.1).final with
          | true =>
              -- the rest of the body is not read
              rw [if_pos rfl, digest_append_of_final hf, conclusion, if_pos hf]
              exact ⟨rfl, rfl, rfl⟩
          | false =>
              rw [if_neg (by simp), digest_append hf]
              obtain ⟨h₁, h₂, h₃⟩ := ih (r := { r with
                decoder := (r.decoder.push bs).2, parser := frames.2
                report := (digest r.report frames.1).report, stopped := false })
                ⟨rfl, h.pending, h.bodyOver⟩
              exact ⟨congrArg _ h₁, h₂, h₃⟩

/-! ### The session of an uncancelled read -/

namespace Session

theorem drain_uncancelled {s : Session} (h : s.cancelled = false) (n : Nat) :
    drain {} n s = ⟨(applyMany n s.reading).2, s.calls ++ (applyMany n s.reading).1, false⟩ := by
  induction n generalizing s with
  | zero => obtain ⟨reading, calls, cancelled⟩ := s; cases h; simp [drain, applyMany]
  | succ n ih =>
      rw [drain, applyMany]
      simp only [h]
      cases (s.reading.applyNext false).1 with
      | none => simpa [h] using ih (s := { s with reading := (s.reading.applyNext false).2 }) h
      | some p => simpa using ih (s := ⟨(s.reading.applyNext false).2, s.calls ++ [p], false⟩) rfl

/-- A read that has stopped takes nothing. -/
theorem readFrom_of_stopped {plan : CancelPlan} {stalls : Bool} {s : Session}
    (h : s.reading.stopped = true) (n : Nat) (items : List BodyItem) :
    readFrom plan stalls n items s = s := by
  induction items generalizing n with
  | nil => simp [readFrom, await, take, h]
  | cons item rest ih => simp [readFrom, await, take, h, ih]

theorem await_uncancelled {s : Session} (h : s.cancelled = false) (n : Nat) :
    s.await {} n = s := by
  simp [await, h]

theorem take_uncancelled {s : Session} (hs : s.reading.stopped = false) (h : s.cancelled = false)
    (n : Nat) (item : Option BodyItem) :
    s.take {} n item =
      let step := ((item.map s.reading.deliver).getD s.reading.close).applyPending
      ⟨step.2, s.calls ++ step.1, false⟩ := by
  cases item <;> simp [take, hs, drainAll, drain_uncancelled, h, applyPending]

/-- An uncancelled session reads the body to its end. -/
theorem readFrom_uncancelled {s : Session} (hi : Idle s.reading) (h : s.cancelled = false)
    (n : Nat) (items : List BodyItem) :
    readFrom {} false n items s =
      ⟨(s.reading.readAll items).2, s.calls ++ (s.reading.readAll items).1, false⟩ := by
  induction items generalizing n s with
  | nil =>
      simp only [readFrom, await_uncancelled h, Bool.false_eq_true, if_false]
      exact take_uncancelled hi.stopped h n none
  | cons item rest ih =>
      rw [readFrom, await_uncancelled h, take_uncancelled hi.stopped h, readAll]
      simp only [Option.map_some, Option.getD_some]
      split
      · rename_i hs
        exact readFrom_of_stopped hs (n + 1) rest
      · rename_i hs
        rw [ih (hi.next (by simpa using hs)) rfl]
        simp

end Session

/-- **What an uncancelled read of a whole body tells of, and what it reports.** -/
theorem run_eq (items : List BodyItem) :
    let d := digest {} (dispatched {} {} items)
    (run {} { items := items }).calls = d.calls ∧
      (run {} { items := items }).reading.report = conclusion d (bodyStop items) := by
  intro d
  obtain ⟨h₁, -, h₃⟩ := readAll_eq idle_start items
  have h : run {} { items := items } = _ := Session.readFrom_uncancelled idle_start rfl 0 items
  rw [h]
  exact ⟨h₁, h₃⟩

/-! ### Chunks -/

theorem bodyStop_chunks (chunks : List (List UInt8)) :
    bodyStop (chunks.map .ok) = .closed := by
  induction chunks with
  | nil => rfl
  | cons bs rest ih => exact ih

/-- The frames of a body without an error of the transport. -/
theorem dispatched_chunks (decoder : Utf8.Decoder) (parser : Sse.Parser)
    (chunks : List (List UInt8)) :
    dispatched decoder parser (chunks.map .ok) =
      let text := decoder.pushAll chunks
      parser.frames (text.1 ++ lastText { decoder := text.2 }) := by
  induction chunks generalizing decoder parser with
  | nil => rfl
  | cons bs rest ih =>
      simp only [List.map_cons, dispatched, ih, Utf8.Decoder.pushAll, List.append_assoc,
        Sse.Parser.frames_append]

/-- The frames of a text, however it is cut into chunks. -/
theorem dispatched_ofText {s : String} {chunks : List (List UInt8)}
    (h : chunks.flatten = Utf8.ofText s) :
    dispatched {} {} (chunks.map .ok) = ({} : Sse.Parser).frames s.toList := by
  rw [dispatched_chunks, Utf8.Decoder.pushAll_ofText h]
  exact congrArg (Sse.Parser.frames _) (List.append_nil _)

/-- What a session leaves to see: the progress told of, and the report. -/
def Session.findings (s : Session) : List DeleteProgress × StreamReport :=
  (s.calls, s.reading.report)

/-- What is found in a body without an error of the transport, by its frames. -/
theorem findings_chunks (chunks : List (List UInt8)) :
    (run {} { items := chunks.map .ok }).findings =
      let d := digest {} (dispatched {} {} (chunks.map .ok))
      (d.calls, conclusion d .closed) := by
  obtain ⟨h₁, h₂⟩ := run_eq (chunks.map .ok)
  rw [bodyStop_chunks] at h₂
  exact Prod.ext h₁ h₂

/-- **How a text is cut into chunks makes no difference to an uncancelled read of it**, and neither
does a blank line behind it: each time the progress told of is the same, in the same order, and so
is the report. -/
theorem run_chunks_irrelevant {s : String} {xs ys zs : List (List UInt8)}
    (hx : xs.flatten = Utf8.ofText s) (hy : ys.flatten = Utf8.ofText s)
    (hz : zs.flatten = Utf8.ofText s ++ [0x0A, 0x0A]) :
    (run {} { items := xs.map .ok }).findings = (run {} { items := ys.map .ok }).findings ∧
      (run {} { items := zs.map .ok }).findings = (run {} { items := xs.map .ok }).findings := by
  have hz' : zs.flatten = Utf8.ofText (s ++ "\n\n") := by
    rw [hz]; simp [Utf8.ofText]; rfl
  have hblank : ({} : Sse.Parser).frames (s ++ "\n\n").toList =
      ({} : Sse.Parser).frames s.toList := by
    rw [String.toList_append]; exact Sse.Parser.frames_append_blank _ _
  constructor
  · rw [findings_chunks, findings_chunks, dispatched_ofText hx, dispatched_ofText hy]
  · rw [findings_chunks, findings_chunks, dispatched_ofText hz', hblank, dispatched_ofText hx]

/-- A body cut between its carriage return and line feed and inside its last character, against the
same body in one chunk, and with a blank line behind it. -/
theorem run_cut_body :
    let xs : List (List UInt8) :=
      [[0x65, 0x76, 0x65, 0x6E, 0x74, 0x3A, 0x20, 0x65, 0x72, 0x72, 0x6F, 0x72, 0x0D],
        [0x0A, 0x64, 0x61, 0x74, 0x61, 0x3A, 0x20, 0xC3], [], [0xA9]]
    let ys := [xs.flatten]
    let zs := xs ++ [[0x0A], [0x0A]]
    xs.flatten = Utf8.ofText "event: error\r\ndata: é" ∧
      (run {} { items := xs.map .ok }).findings = (run {} { items := ys.map .ok }).findings ∧
      (run {} { items := zs.map .ok }).findings = (run {} { items := xs.map .ok }).findings := by
  intro xs ys zs
  have hx : xs.flatten = Utf8.ofText "event: error\r\ndata: é" := by decide
  have hy : ys.flatten = Utf8.ofText "event: error\r\ndata: é" := by decide
  have hz : zs.flatten = Utf8.ofText "event: error\r\ndata: é" ++ [0x0A, 0x0A] := by decide
  exact ⟨hx, run_chunks_irrelevant hx hy hz⟩

end MediaMonitor.Reading
