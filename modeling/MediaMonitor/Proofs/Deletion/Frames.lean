import MediaMonitor.Proofs.Deletion.Digest

/-!
# Kinds of frames

A frame of a deletion tells of progress, brings the final result, reports that the deletion broke
off, or is rejected: it is of exactly one of these kinds (`StreamFrame.length_eq`).  The second and
the third kind are final, and the digest of a list of frames is final if one of them is
(`Reading.final_digest`).  `Reading.applyFrame_eq` says what a read makes of a frame by its kind.
-/

namespace MediaMonitor

namespace StreamFrame

/-- The progress that a frame tells of. -/
def told? (f : Sse.Frame) : Option DeleteProgress :=
  match ofFrame f with
  | .ok (.progress p) => some p
  | _ => none

/-- The final result that a frame brings. -/
def result? (f : Sse.Frame) : Option BulkDeleteResult :=
  match ofFrame f with
  | .ok (.complete result) => some result
  | _ => none

/-- The reason for which the deletion broke off, as a frame reports it. -/
def reason? (f : Sse.Frame) : Option String :=
  match ofFrame f with
  | .ok (.error reason) => some reason
  | _ => none

/-- A frame that cannot be decoded. -/
def isRejected (f : Sse.Frame) : Bool := !(ofFrame f).isOk

/-- A frame that ends the read. -/
def isFinal (f : Sse.Frame) : Bool := (result? f).isSome || (reason? f).isSome

section
variable {f : Sse.Frame}

theorem of_progress {p : DeleteProgress} (h : ofFrame f = .ok (.progress p)) :
    told? f = some p ∧ result? f = none ∧ reason? f = none ∧ isRejected f = false := by
  simp [told?, result?, reason?, isRejected, h, Except.isOk, Except.toBool]

theorem of_complete {result : BulkDeleteResult} (h : ofFrame f = .ok (.complete result)) :
    told? f = none ∧ result? f = some result ∧ reason? f = none ∧ isRejected f = false := by
  simp [told?, result?, reason?, isRejected, h, Except.isOk, Except.toBool]

theorem of_error {reason : String} (h : ofFrame f = .ok (.error reason)) :
    told? f = none ∧ result? f = none ∧ reason? f = some reason ∧ isRejected f = false := by
  simp [told?, result?, reason?, isRejected, h, Except.isOk, Except.toBool]

theorem of_fault {fault : FrameFault} (h : ofFrame f = .error fault) :
    told? f = none ∧ result? f = none ∧ reason? f = none ∧ isRejected f = true := by
  simp [told?, result?, reason?, isRejected, h, Except.isOk, Except.toBool]

end

/-- Every frame is of one kind. -/
theorem length_eq (fs : List Sse.Frame) :
    fs.length = (fs.filterMap told?).length + (fs.filterMap result?).length +
      (fs.filterMap reason?).length + fs.countP isRejected := by
  induction fs with
  | nil => rfl
  | cons f fs ih =>
      rcases hf : ofFrame f with fault | (p | result | reason)
      · simp [of_fault hf]; omega
      · simp [of_progress hf]; omega
      · simp [of_complete hf]; omega
      · simp [of_error hf]; omega

end StreamFrame

namespace Reading

open StreamFrame

theorem final_digest (report : StreamReport) (fs : List Sse.Frame) :
    (digest report fs).final = fs.any isFinal := by
  induction fs generalizing report with
  | nil => rfl
  | cons f fs ih =>
      rcases hf : ofFrame f with fault | (p | result | reason)
      · simp [digest_skipped hf, ih, isFinal, of_fault hf]
      · simp [digest_progress hf, ih, isFinal, of_progress hf]
      · simp [digest_complete hf, isFinal, of_complete hf]
      · simp [digest_error hf, isFinal, of_error hf]

/-- What becomes of a report when a frame is examined. -/
def noted (report : StreamReport) (f : Sse.Frame) : StreamReport :=
  match ofFrame f with
  | .ok (.progress p) =>
      { report with progress := some p, framesApplied := report.framesApplied + 1 }
  | .ok (.complete result) =>
      { report with
        result := some result, stop := .finished, framesApplied := report.framesApplied + 1 }
  | .ok (.error reason) => { report with stop := .failed reason }
  | .error _ => { report with skippedFrames := report.skippedFrames + 1 }

/-- A final frame does not leave the body to come to its end. -/
theorem stop_noted {report : StreamReport} {f : Sse.Frame} (h : isFinal f = true) :
    (noted report f).stop ≠ .closed := by
  rcases hf : ofFrame f with fault | (p | result | reason)
  · simp [isFinal, of_fault hf] at h
  · simp [isFinal, of_progress hf] at h
  · simp [noted, hf]
  · simp [noted, hf]

/-- A frame is told of or not, it is noted in the report, and it ends the read or not. -/
theorem applyFrame_eq (r : Reading) (f : Sse.Frame) :
    r.applyFrame f = (told? f,
      if isFinal f then { r with report := noted r.report f, pending := [], stopped := true }
      else settle { r with report := noted r.report f }) := by
  rcases hf : ofFrame f with fault | (p | result | reason)
  · simp [applyFrame_skipped hf, of_fault hf, isFinal, noted, hf]
  · simp [applyFrame_progress hf, of_progress hf, isFinal, noted, hf]
  · simp [applyFrame_complete hf, of_complete hf, isFinal, noted, hf, halt]
  · simp [applyFrame_error hf, of_error hf, isFinal, noted, hf, halt]

namespace Session

/-- A frame that is dealt with: the read can be cancelled inside the call that tells of it. -/
theorem drain_frame {plan : CancelPlan} {s : Session} {f : Sse.Frame} {fs : List Sse.Frame}
    (hp : s.reading.pending = f :: fs) (hc : s.cancelled = false) (k : Nat) :
    drain plan (k + 1) s = drain plan k
      ⟨(applyFrame { s.reading with pending := fs } f).2, s.calls ++ (told? f).toList,
        (told? f).isSome && plan.call (s.calls.length + 1)⟩ := by
  have htold : (applyFrame { s.reading with pending := fs } f).1 = told? f := by
    rw [applyFrame_eq]
  rw [drain]
  simp only [applyNext, hp, hc, Bool.false_eq_true, if_false, htold]
  cases told? f with
  | none => simp
  | some p => simp

end Session

end Reading

end MediaMonitor
