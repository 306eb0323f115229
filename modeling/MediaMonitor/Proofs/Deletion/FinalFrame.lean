import MediaMonitor.Proofs.Deletion.Account
import MediaMonitor.Proofs.Text.Chunks

/-!
# Behind the final frame

What a read finds depends on its body up to the first final frame only: whatever follows it, in the
same chunk or in later items, the calls and the report are the same (`findings_of_final`).  With
what the report accounts for, that is `run_accounted`.

All frames of a chunk are pending before the first of them is examined, so two reads of different
chunks differ in their pending frames.  They find the same as long as they examine frames that the
chunks have in common, and a final one among these stops both (`Session.Alike.drain`).
-/

namespace MediaMonitor.Reading

open StreamFrame

/-! ### The frames of one chunk -/

/-- The frames that a chunk brings, a longer chunk brings as well. -/
theorem frames_chunk_prefix (d : Utf8.Decoder) (p : Sse.Parser) (bs more : List UInt8) :
    (p.push (d.push bs).1).1 <+: (p.push (d.push (bs ++ more)).1).1 := by
  obtain ⟨cs, htext, hcs⟩ := d.push_fst bs
  obtain ⟨cs', htext', -⟩ := d.push_fst (bs ++ more)
  have hpush : (p.push (d.push bs).1).1 = (p.push (Utf8.lossy (Utf8.run d.carried bs).1)).1 := by
    rw [htext]
    rcases hcs with rfl | rfl
    · rw [List.append_nil]
    · simp [Sse.Parser.push_append, Sse.Parser.push, Sse.Parser.step_char]
  rw [Utf8.run_append, Utf8.lossy_append, List.append_assoc] at htext'
  rw [hpush, htext', Sse.Parser.push_append]
  exact List.prefix_append _ _

namespace Session

/-- Two sessions that have found the same, and have some frames in common to examine first. -/
structure Alike (fs : List Sse.Frame) (s t : Session) : Prop where
  findings : s.findings = t.findings
  cancelled : s.cancelled = t.cancelled
  left : fs <+: s.reading.pending
  right : fs <+: t.reading.pending

/-- Two sessions that have a final frame in common find the same, and stop. -/
theorem Alike.drain {plan : CancelPlan} {fs : List Sse.Frame} {s t : Session} (h : Alike fs s t)
    (hf : fs.any isFinal = true) {m n : Nat} (hm : s.reading.pending.length ≤ m)
    (hn : t.reading.pending.length ≤ n) :
    (drain plan m s).findings = (drain plan n t).findings ∧
      (drain plan m s).reading.stopped = true ∧ (drain plan n t).reading.stopped = true := by
  induction fs generalizing s t m n with
  | nil => cases hf
  | cons f fs ih =>
      obtain ⟨gs, hs⟩ := h.left
      obtain ⟨gs', ht⟩ := h.right
      obtain ⟨hcalls, hreport⟩ := Prod.ext_iff.mp h.findings
      dsimp only [Session.findings] at hcalls hreport
      rw [List.cons_append] at hs ht
      cases hc : s.cancelled with
      | true =>
          rw [drain_cancelled hc hm, drain_cancelled (h.cancelled ▸ hc) hn, ← hs, ← ht,
            if_neg (List.cons_ne_nil _ _), if_neg (List.cons_ne_nil _ _)]
          exact ⟨by simp [Session.findings, halt, hcalls, hreport], rfl, rfl⟩
      | false =>
          rw [← hs, List.length_cons] at hm
          rw [← ht, List.length_cons] at hn
          obtain ⟨m, rfl⟩ : ∃ k, m = k + 1 := ⟨m - 1, by omega⟩
          obtain ⟨n, rfl⟩ : ∃ k, n = k + 1 := ⟨n - 1, by omega⟩
          rw [drain_frame hs.symm hc, drain_frame ht.symm (h.cancelled ▸ hc), applyFrame_eq,
            applyFrame_eq]
          cases hfinal : isFinal f with
          | true =>
              rw [if_pos rfl, if_pos rfl, drain_of_pending_eq_nil rfl, drain_of_pending_eq_nil rfl]
              exact ⟨by simp [Session.findings, hcalls, hreport], rfl, rfl⟩
          | false =>
              rw [List.any_cons, hfinal, Bool.false_or] at hf
              have hfs : fs ≠ [] := by rintro rfl; cases hf
              rw [if_neg (by simp), if_neg (by simp), settle_of_pending (by simp [hfs]),
                settle_of_pending (by simp [hfs])]
              refine ih (s := ⟨_, _, _⟩) (t := ⟨_, _, _⟩) ⟨?_, ?_, ⟨gs, rfl⟩, ⟨gs', rfl⟩⟩ hf
                (by dsimp only; omega) (by dsimp only; omega)
              · simp [Session.findings, hcalls, hreport]
              · simp [hcalls]

end Session

/-! ### A whole body -/

/-- The frames that come with some items of a body, up to an error of the transport. -/
def arrived (decoder : Utf8.Decoder) (parser : Sse.Parser) : List BodyItem → List Sse.Frame
  | [] => []
  | .ok bs :: rest =>
      let text := decoder.push bs
      let frames := parser.push text.1
      frames.1 ++ arrived text.2 frames.2 rest
  | .error _ :: _ => []

/-- Examining a frame decodes and parses nothing. -/
theorem source_applyNext (r : Reading) (cancelled : Bool) :
    (r.applyNext cancelled).2.decoder = r.decoder ∧
      (r.applyNext cancelled).2.parser = r.parser := by
  have hsettle : ∀ q : Reading, q.settle.decoder = q.decoder ∧ q.settle.parser = q.parser := by
    intro q
    rw [settle]
    split <;> exact ⟨rfl, rfl⟩
  have h := applied r cancelled
  generalize r.applyNext cancelled = step at h
  cases h with
  | told | skipped => exact hsettle _
  | idle | cut | complete | failed => exact ⟨rfl, rfl⟩

namespace Session

theorem source_drain (plan : CancelPlan) (k : Nat) (s : Session) :
    (drain plan k s).reading.decoder = s.reading.decoder ∧
      (drain plan k s).reading.parser = s.reading.parser := by
  induction k generalizing s with
  | zero => exact ⟨rfl, rfl⟩
  | succ k ih =>
      obtain ⟨hdecoder, hparser⟩ := source_applyNext s.reading s.cancelled
      rw [drain]
      dsimp only
      split
      · exact ⟨(ih _).1.trans hdecoder, (ih _).2.trans hparser⟩
      · exact ⟨(ih _).1.trans hdecoder, (ih _).2.trans hparser⟩

theorem await_of_open {plan : CancelPlan} {s : Session} {n : Nat}
    (h : (s.await plan n).reading.stopped = false) : s.await plan n = s := by
  rw [await] at h ⊢
  split
  · rfl
  · rename_i hs
    rw [if_neg hs] at h
    split
    · rename_i hc; rw [if_pos hc] at h; cases h
    · rfl

/-- Two open reads of chunks that have a final frame in common. -/
theorem take_alike (plan : CancelPlan) (n : Nat) {s : Session} {bs : List UInt8}
    (hs : s.reading.stopped = false)
    (hf : (s.reading.parser.push (s.reading.decoder.push bs).1).1.any isFinal = true)
    (more more' : List UInt8) :
    (s.take plan n (some (.ok (bs ++ more)))).findings =
        (s.take plan n (some (.ok (bs ++ more')))).findings ∧
      (s.take plan n (some (.ok (bs ++ more)))).reading.stopped = true ∧
      (s.take plan n (some (.ok (bs ++ more')))).reading.stopped = true := by
  rw [take_of_open hs, take_of_open hs]
  have halike : Alike (s.reading.parser.push (s.reading.decoder.push bs).1).1
      { s with
        reading := s.reading.deliver (.ok (bs ++ more))
        cancelled := s.cancelled || plan.delivering n }
      { s with
        reading := s.reading.deliver (.ok (bs ++ more'))
        cancelled := s.cancelled || plan.delivering n } :=
    ⟨rfl, rfl, frames_chunk_prefix _ _ _ _, frames_chunk_prefix _ _ _ _⟩
  exact halike.drain hf (Nat.le_refl _) (Nat.le_refl _)

/-- A read that is open behind an item has not come to a final frame with it. -/
theorem any_arrived_take {plan : CancelPlan} {s : Session} {n : Nat} {item : BodyItem}
    (hs : s.reading.stopped = false) (hs' : (s.take plan n (some item)).reading.stopped = false)
    (items : List BodyItem) :
    (arrived (s.take plan n (some item)).reading.decoder
        (s.take plan n (some item)).reading.parser items).any isFinal =
      (arrived s.reading.decoder s.reading.parser (item :: items)).any isFinal := by
  cases item with
  | error e => rw [take_of_open hs] at hs'; cases hs'
  | ok bs =>
      have hf : (s.reading.parser.push (s.reading.decoder.push bs).1).1.any isFinal = false := by
        refine Bool.eq_false_iff.mpr fun hf => ?_
        have hstopped := (take_alike plan n hs hf [] []).2.1
        rw [List.append_nil, hs'] at hstopped
        cases hstopped
      rw [take_of_open hs, drainAll, (source_drain _ _ _).1, (source_drain _ _ _).2, arrived,
        List.any_append, hf, Bool.false_or]
      rfl

end Session

/-- Whatever follows a final frame, the read finds the same. -/
theorem findings_of_final {plan : CancelPlan} {pre : List BodyItem} {bs : List UInt8} {s : Session}
    {stalls stalls' : Bool} {n : Nat}
    (h : (arrived s.reading.decoder s.reading.parser (pre ++ [.ok bs])).any isFinal = true)
    (more more' : List UInt8) (rest rest' : List BodyItem) :
    (Session.readFrom plan stalls n (pre ++ .ok (bs ++ more) :: rest) s).findings =
      (Session.readFrom plan stalls' n (pre ++ .ok (bs ++ more') :: rest') s).findings := by
  -- by induction on the items in front: the read stops with one of them, or it has not come to a
  -- final frame by then
  induction pre generalizing n s with
  | nil =>
      rw [List.nil_append, List.nil_append, Session.readFrom, Session.readFrom]
      cases hs : (s.await plan n).reading.stopped with
      | true =>
          rw [Session.take_of_stopped hs, Session.take_of_stopped hs,
            Session.readFrom_of_stopped hs, Session.readFrom_of_stopped hs]
      | false =>
          have hawait := Session.await_of_open hs
          rw [hawait] at hs ⊢
          have hf : (s.reading.parser.push (s.reading.decoder.push bs).1).1.any isFinal = true := by
            simpa [arrived] using h
          obtain ⟨heq, hstopped, hstopped'⟩ := Session.take_alike plan n hs hf more more'
          rw [Session.readFrom_of_stopped hstopped, Session.readFrom_of_stopped hstopped', heq]
  | cons item pre ih =>
      rw [List.cons_append, List.cons_append, Session.readFrom, Session.readFrom]
      cases hs : ((s.await plan n).take plan n (some item)).reading.stopped with
      | true => rw [Session.readFrom_of_stopped hs, Session.readFrom_of_stopped hs]
      | false =>
          have hopen : (s.await plan n).reading.stopped = false := by
            refine Bool.eq_false_iff.mpr fun hstopped => ?_
            rw [Session.take_of_stopped hstopped, hstopped] at hs
            cases hs
          have hawait := Session.await_of_open hopen
          rw [hawait] at hs hopen ⊢
          rw [List.cons_append, ← Session.any_arrived_take hopen hs] at h
          exact ih h

/-- **What the report of a read accounts for.**  At every moment of a read, which can be cancelled
at any time, the frames examined account for the calls and the report, and each of them is counted
once; at the end of the body none is left.  The read that `run` makes by a plan is such a read, and
it stops if its body ends.  What follows the first final frame of the body, in its chunk or behind
it, is of no consequence. -/
theorem run_accounted (plan : CancelPlan) (body : Body) :
    (∀ items s seen, Course body items s seen →
      Account body s.calls s.reading.report seen ∧
        seen.length = s.reading.report.framesApplied + s.reading.report.skippedFrames +
          (seen.filterMap reason?).length ∧
        (seen.filterMap reason?).length ≤ 1 ∧
        (s.reading.stopped = true → s.reading.report.stop = .closed →
          seen = dispatched {} {} body.items)) ∧
    (∃ items seen, Course body items (run plan body) seen) ∧
    (body.stalls = false → (run plan body).reading.stopped = true) ∧
    ∀ pre bs more rest, body.items = pre ++ .ok (bs ++ more) :: rest →
      (arrived {} {} (pre ++ [.ok bs])).any isFinal = true →
      ∀ more' rest' stalls',
        (run plan { items := pre ++ .ok (bs ++ more') :: rest', stalls := stalls' }).findings =
          (run plan body).findings := by
  obtain ⟨hcourse, hstops⟩ := exists_course plan body
  refine ⟨fun items s seen h => ?_, hcourse, hstops, ?_⟩
  · obtain ⟨hcounted, hfailed⟩ := h.onCourse.account.counted
    exact ⟨h.onCourse.account, hcounted, hfailed, h.onCourse.closed⟩
  intro pre bs more rest hitems hfinal more' rest' stalls'
  rw [run, run, hitems]
  exact findings_of_final (s := {}) hfinal more' more rest' rest

/-- Behind the frame that ends it, a read does not see a frame in the same chunk, nor an error of
the transport. -/
theorem run_accounted_with_error :
    let bs := Utf8.ofText "event: error\ndata: gone\n\n"
    let more := Utf8.ofText "data: \x7b\"current\":1,\"total\":3\x7d\n\n"
    let body : Body := { items := [.ok (bs ++ more), .error (.operationFailed "reset")] }
    (∃ seen, Account body (run {} body).calls (run {} body).reading.report seen) ∧
      (run {} body).reading.stopped = true ∧
      (run {} { items := [.ok bs] }).findings = (run {} body).findings := by
  intro bs more body
  obtain ⟨haccount, ⟨items, seen, hcourse⟩, hstops, hfinal⟩ := run_accounted {} body
  have hbehind := hfinal [] bs more [.error (.operationFailed "reset")] rfl (by decide +kernel) []
    [] false
  rw [List.append_nil] at hbehind
  exact ⟨⟨seen, (haccount items _ seen hcourse).1⟩, hstops rfl, hbehind⟩

end MediaMonitor.Reading
