import MediaMonitor.Proofs.Deletion.Frames

/-!
# Blocks that cannot be decoded

A block of a body none of whose frames can be decoded is skipped: the read tells of the same
progress and reports the same as if the block were not there, but for the number of the frames
skipped (`Reading.run_past_rejected`).  The block may stand at the start of the body or behind any
blank line, it ends in a blank line itself, and so neither the parser nor the read keeps anything of
it.
-/

namespace MediaMonitor

/-- The report with so many more frames skipped. -/
def StreamReport.skipping (r : StreamReport) (k : Nat) : StreamReport :=
  { r with skippedFrames := r.skippedFrames + k }

namespace Reading

open StreamFrame Sse

/-- The digest with so many more frames skipped. -/
def Digest.skipping (d : Digest) (k : Nat) : Digest := { d with report := d.report.skipping k }

/-- Frames that are rejected are only counted. -/
theorem digest_rejected {fs : List Frame} (h : ∀ f ∈ fs, isRejected f = true)
    (report : StreamReport) : digest report fs = ⟨[], report.skipping fs.length, false⟩ := by
  induction fs generalizing report with
  | nil => rfl
  | cons f fs ih =>
      have hf := h f List.mem_cons_self
      cases hd : ofFrame f with
      | ok meaning => simp [isRejected, hd, Except.isOk, Except.toBool] at hf
      | error fault =>
          rw [digest_skipped hd, ih fun g hg => h g (List.mem_cons_of_mem f hg)]
          simp only [StreamReport.skipping, List.length_cons, Nat.add_assoc, Nat.add_comm 1]

/-- Frames that were skipped before stay in the count, and change nothing else. -/
theorem digest_skipping (report : StreamReport) (k : Nat) (fs : List Frame) :
    digest (report.skipping k) fs = (digest report fs).skipping k := by
  induction fs generalizing report with
  | nil => rfl
  | cons f fs ih =>
      rcases hf : ofFrame f with fault | (p | result | reason)
      · have hcount : ({ report.skipping k with
            skippedFrames := (report.skipping k).skippedFrames + 1 } : StreamReport) =
            StreamReport.skipping { report with skippedFrames := report.skippedFrames + 1 } k := by
          simp only [StreamReport.skipping, Nat.add_right_comm]
        rw [digest_skipped hf, digest_skipped hf, hcount, ih]
      · rw [digest_progress hf, digest_progress hf]
        exact congrArg (fun d : Digest => { d with calls := p :: d.calls })
          (ih { report with progress := some p, framesApplied := report.framesApplied + 1 })
      · rw [digest_complete hf, digest_complete hf]; rfl
      · rw [digest_error hf, digest_error hf]; rfl

/-- Frames that are rejected, between others. -/
theorem digest_past_rejected {bad : List Frame} (h : ∀ f ∈ bad, isRejected f = true)
    (before after : List Frame) :
    digest {} (before ++ (bad ++ after)) =
      (digest {} (before ++ after)).skipping (if before.any isFinal then 0 else bad.length) := by
  cases hfinal : before.any isFinal with
  | true =>
      have hd : (digest {} before).final = true := by rw [final_digest, hfinal]
      rw [digest_append_of_final hd, digest_append_of_final hd, if_pos rfl]
      rfl
  | false =>
      have hd : (digest {} before).final = false := by rw [final_digest, hfinal]
      have hbad := digest_rejected h (digest {} before).report
      rw [digest_append hd, digest_append hd, digest_append (by rw [hbad]), hbad, digest_skipping,
        if_neg (by simp)]
      rfl

theorem conclusion_skipping (d : Digest) (k : Nat) (stop : StreamEnd) :
    conclusion (d.skipping k) stop = (conclusion d stop).skipping k := by
  unfold conclusion
  cases hf : d.final
  · rw [if_neg (by simp [Digest.skipping, hf]), if_neg (by simp)]; rfl
  · rw [if_pos (by simp [Digest.skipping, hf]), if_pos rfl]; rfl

/-- **A block that cannot be decoded is skipped.**  Between a text that ends in a blank line, if
there is one, and any other text, it makes no difference but for the number of skipped frames; and
none at all behind a final frame. -/
theorem run_past_rejected {s₁ c s₂ : String} {xs ys : List (List UInt8)}
    (h₁ : s₁ = "" ∨ Parser.EndsBlank s₁) (hc : Parser.EndsBlank c)
    (hbad : ∀ f ∈ ({} : Parser).frames c.toList, isRejected f = true)
    (hx : xs.flatten = Utf8.ofText (s₁ ++ c ++ s₂)) (hy : ys.flatten = Utf8.ofText (s₁ ++ s₂)) :
    let s := run {} { items := xs.map .ok }
    let t := run {} { items := ys.map .ok }
    let more := if (({} : Parser).frames s₁.toList).any isFinal then 0
      else (({} : Parser).frames c.toList).length
    s.calls = t.calls ∧
      s.reading.report =
        { t.reading.report with skippedFrames := t.reading.report.skippedFrames + more } := by
  intro s t more
  have hframes : dispatched {} {} (xs.map .ok) =
      ({} : Parser).frames s₁.toList ++
        (({} : Parser).frames c.toList ++ ({} : Parser).frames s₂.toList) := by
    rw [dispatched_ofText hx, String.append_assoc, Parser.frames_append_of_endsBlank h₁,
      Parser.frames_append_of_endsBlank (.inr hc)]
  have hframes' : dispatched {} {} (ys.map .ok) =
      ({} : Parser).frames s₁.toList ++ ({} : Parser).frames s₂.toList := by
    rw [dispatched_ofText hy, Parser.frames_append_of_endsBlank h₁]
  obtain ⟨hcalls, hreport⟩ := Prod.ext_iff.mp (findings_chunks xs)
  obtain ⟨hcalls', hreport'⟩ := Prod.ext_iff.mp (findings_chunks ys)
  rw [hframes, digest_past_rejected hbad] at hcalls hreport
  rw [hframes'] at hcalls' hreport'
  dsimp only at hcalls hreport hcalls' hreport'
  rw [conclusion_skipping, ← hreport'] at hreport
  exact ⟨hcalls.trans hcalls'.symm, hreport⟩

/-- Broken JSON and an unknown event between a frame that tells of progress and one that breaks the
deletion off, against the two frames alone, in other chunks. -/
theorem run_past_broken_frames :
    let s₁ := "data: \x7b\"current\":1,\"total\":3\x7d\n\n"
    let c := "data: \x7b\n\nevent: ping\n\n"
    let s₂ := "event: error\ndata: gone\n"
    let xs := [Utf8.ofText s₁, Utf8.ofText c ++ Utf8.ofText s₂]
    let ys := [Utf8.ofText (s₁ ++ s₂)]
    let s := run {} { items := xs.map .ok }
    let t := run {} { items := ys.map .ok }
    s.calls = t.calls ∧ s.reading.report =
      { t.reading.report with skippedFrames := t.reading.report.skippedFrames + 2 } := by
  intro s₁ c s₂ xs ys
  have hc : Parser.EndsBlank c := ⟨"data: \x7b\n\nevent: ping", "\n", by simp, rfl⟩
  have hbad : ∀ f ∈ ({} : Parser).frames c.toList, isRejected f = true := by decide +kernel
  have hskipped : (if (({} : Parser).frames s₁.toList).any isFinal then 0
      else (({} : Parser).frames c.toList).length) = 2 := by decide +kernel
  have h₁ : s₁ = "" ∨ Parser.EndsBlank s₁ :=
    .inr ⟨"data: \x7b\"current\":1,\"total\":3\x7d", "\n", by simp, rfl⟩
  have hx : xs.flatten = Utf8.ofText (s₁ ++ c ++ s₂) := by decide +kernel
  have hy : ys.flatten = Utf8.ofText (s₁ ++ s₂) := by decide +kernel
  have hrun := run_past_rejected h₁ hc hbad hx hy
  rwa [hskipped] at hrun

end Reading

end MediaMonitor
