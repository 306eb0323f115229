import MediaMonitor.Deletion.Coordinator
import MediaMonitor.Proofs.Deletion.Digest
import MediaMonitor.Proofs.Deletion.Tally

/-!
# The verdict on a deletion

What a deletion comes to is decided by the first final frame of the reply: a final result is
reconciled and classified, and anything else, or no final frame at all, credits the deletion with
nothing, whatever the progress was (`verdict_eq`).
-/

namespace MediaMonitor

/-- The meaning of a frame that ends a read. -/
def StreamFrame.final? (frame : Sse.Frame) : Option StreamFrame :=
  match StreamFrame.ofFrame frame with
  | .ok (.progress _) => none
  | .ok f => some f
  | .error _ => none

/-- The reply to the request of a deletion: an error, or a body. -/
abbrev DeletionReply := Except MaintenanceError (List BodyItem)

/-- The final result in a reply: that of its first final frame, if this one is a result. -/
def DeletionReply.result? : DeletionReply → Option BulkDeleteResult
  | .error _ => none
  | .ok items =>
      match (Reading.dispatched {} {} items).findSome? StreamFrame.final? with
      | some (.complete r) => some r
      | _ => none

/-- What a deletion of so many items comes to, by the reply to its request. -/
def DeletionReply.verdict (requested : UInt64) : DeletionReply → DeleteOutcome
  | .error e => .transportFailure requested e.message
  | .ok items =>
      let d := Reading.digest {} (Reading.dispatched {} {} items)
      Coordinator.outcomeOf requested (Reading.conclusion d (Reading.bodyStop items))

/-! ### The digest of a final frame -/

namespace Reading

/-- What a list of frames amounts to is decided by its first final frame. -/
theorem digest_decided (report : StreamReport) (frames : List Sse.Frame) :
    let d := digest report frames
    match frames.findSome? StreamFrame.final? with
    | some (.complete r) => d.final = true ∧ d.report.stop = .finished ∧ d.report.result = some r
    | some (.error reason) => d.final = true ∧ d.report.stop = .failed reason
    | _ => d.final = false := by
  induction frames generalizing report with
  | nil => rfl
  | cons frame rest ih =>
      rw [List.findSome?_cons]
      rcases hf : StreamFrame.ofFrame frame with fault | (p | result | reason)
      · rw [digest_skipped hf]; simp only [StreamFrame.final?, hf]; exact ih _
      · rw [digest_progress hf]; simp only [StreamFrame.final?, hf]; exact ih _
      · rw [digest_complete hf]; simp [StreamFrame.final?, hf]
      · rw [digest_error hf]; simp [StreamFrame.final?, hf]

theorem bodyStop_ne_finished (items : List BodyItem) : bodyStop items ≠ .finished := by
  induction items with
  | nil => nofun
  | cons item rest ih =>
      cases item with
      | error e => nofun
      | ok bs => exact ih

end Reading

/-! ### The verdict -/

namespace Coordinator

/-- A read that ended without the final result credits the deletion with nothing. -/
theorem outcomeOf_of_ne_finished {requested : UInt64} {report : StreamReport}
    (h : report.stop ≠ .finished) :
    ∃ reason, outcomeOf requested report = .transportFailure requested reason := by
  rw [outcomeOf]
  split
  · rename_i hstop _; exact absurd hstop h
  · exact ⟨_, rfl⟩
  · exact ⟨_, rfl⟩

theorem outcomeOf_finished {requested : UInt64} {report : StreamReport} {r : BulkDeleteResult}
    (hs : report.stop = .finished) (hr : report.result = some r) :
    outcomeOf requested report = .classify (.ofResult requested r) := by
  rw [outcomeOf, hs, hr]

end Coordinator

namespace DeletionReply

/-- **Only the final result of the reply credits a deletion with anything.** -/
theorem verdict_eq (requested : UInt64) (reply : DeletionReply) :
    match reply.result? with
    | some r => reply.verdict requested = .classify (.ofResult requested r)
    | none => ∃ reason, reply.verdict requested = .transportFailure requested reason := by
  cases reply with
  | error e => exact ⟨_, rfl⟩
  | ok items =>
      have hd := Reading.digest_decided {} (Reading.dispatched {} {} items)
      have hstop := Reading.bodyStop_ne_finished items
      have hopen : ∀ d : Reading.Digest, d.final = false → ∃ reason,
          Coordinator.outcomeOf requested (Reading.conclusion d (Reading.bodyStop items)) =
            .transportFailure requested reason := by
        intro d hf
        rw [Reading.conclusion, if_neg (by simp [hf])]
        exact Coordinator.outcomeOf_of_ne_finished hstop
      rcases hf : (Reading.dispatched {} {} items).findSome? StreamFrame.final? with
        _ | (p | r | reason)
      · simp only [result?, verdict, hf] at hd ⊢
        exact hopen _ hd
      · simp only [result?, verdict, hf] at hd ⊢
        exact hopen _ hd
      · simp only [result?, verdict, hf, Reading.conclusion] at hd ⊢
        rw [if_pos hd.1]
        exact Coordinator.outcomeOf_finished hd.2.1 hd.2.2
      · simp only [result?, verdict, hf, Reading.conclusion] at hd ⊢
        rw [if_pos hd.1]
        exact Coordinator.outcomeOf_of_ne_finished (by simp [hd.2])

/-- The verdict accounts for exactly the items asked for. -/
theorem balanced_verdict {requested : UInt64} (h : requested.toNat < UInt64.size - 1)
    (reply : DeletionReply) :
    (reply.verdict requested).tally.requested = requested ∧
      (reply.verdict requested).tally.Balanced := by
  have hv := verdict_eq requested reply
  cases hr : reply.result? with
  | some r =>
      simp only [hr] at hv
      rw [hv, DeleteOutcome.tally_classify]
      exact ⟨DeleteTally.requested_reconciled _, DeleteTally.balanced_reconciled h⟩
  | none =>
      simp only [hr] at hv
      obtain ⟨reason, hv⟩ := hv
      rw [hv]
      exact ⟨rfl, by simp [DeleteOutcome.transportFailure, DeleteTally.Balanced]⟩

end DeletionReply

end MediaMonitor
