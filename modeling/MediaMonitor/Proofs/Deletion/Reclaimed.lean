import MediaMonitor.Proofs.Deletion.CrossServer

/-!
# What a deletion across servers reclaims

The known sizes of what was deleted are added up at the end of a deletion, step by step.  If their
sum is a counter the report shows it, and it is at least each of the sizes.  If it is none the
deletion breaks off: everything was deleted as always, but there is no report, and nobody is told
that the deletion is over (`CrossServer.run_delete_reclaims`).
-/

namespace MediaMonitor.CrossServer

theorem le_deletedTotal {source : Candidate} {selected : List CrossServerMatch}
    {failures : List (Option String)} {size : UInt64}
    (h : size ∈ deletedSizes source selected failures) :
    size.toNat ≤ deletedTotal source selected failures :=
  List.le_sum_of_mem (List.mem_map_of_mem h)

section
variable {σ : Type} (answer : σ → (c : BackendCall) → c.Outcome × σ)

/-- **What is reclaimed.**  A deletion that is not refused makes all its calls.  If the known sizes
of what they deleted add up to a counter, it tells that it is finished and returns a report, which
shows the sum: no less than any of the sizes.  If they do not, it returns nothing and tells no more
than that it was started. -/
theorem run_delete_reclaims (run : RunId) (source : Candidate) (selected : List CrossServerMatch)
    (s : σ) (h : ∀ m ∈ selected, m.itemId ≠ source.item.id) :
    let trace := (Procedure.run answer (delete run source selected) s).1
    let failures := (Procedure.replies answer (deleteCalls source selected) s).map
      Procedure.failure?
    let total := deletedTotal source selected failures
    trace.calls = deleteCalls source selected ∧
      (total < UInt64.size →
        ∃ report, trace.result = some (.ok report) ∧
          trace.events =
            startEvent run source selected :: finishEvents run source.ruleId report ∧
          report.outcome.tally.reclaimedBytes.toNat = total ∧
          ∀ size ∈ deletedSizes source selected failures,
            size ≤ report.outcome.tally.reclaimedBytes) ∧
      (UInt64.size ≤ total →
        trace.result = none ∧ trace.events = [startEvent run source selected]) := by
  intro trace failures total
  have hlength := length_copyFailures answer source selected s
  refine ⟨calls_delete answer run s h, fun hfits => ?_, fun hbeyond => ?_⟩
  · obtain ⟨tally, htally⟩ := exists_tally answer s hfits
    have htrace := trace_delete answer run s h htally
    have hreclaimed : (DeleteOutcome.classify tally).tally.reclaimedBytes.toNat = total := by
      obtain ⟨-, -, hsum⟩ := DeleteTarget.of_tally? htally
      rw [DeleteOutcome.tally_classify, hsum, targetsOf,
        ((reclaimedSizes_perm hlength).map _).sum_eq]
      simp only [total, failures, map_failure?_replies, deletedTotal]
    refine ⟨_, congrArg Procedure.Trace.result htrace, congrArg Procedure.Trace.events htrace,
      hreclaimed, fun size hsize => ?_⟩
    exact UInt64.le_iff_toNat_le.mpr ((le_deletedTotal hsize).trans_eq hreclaimed.symm)
  · have htrace :=
      trace_delete_of_none answer run s h ((tally?_targetsOf_eq_none_iff answer s).mpr hbeyond)
    exact ⟨congrArg Procedure.Trace.result htrace, congrArg Procedure.Trace.events htrace⟩

end

/-- An item of this size. -/
def itemOfSize (size : Option UInt64) : Candidate :=
  { (default : Candidate) with item := { (default : LibraryItem) with id := 1, sizeBytes := size } }

/-- A copy of this size. -/
def copyOfSize (id : Int64) (size : Option UInt64) : CrossServerMatch :=
  { (default : CrossServerMatch) with itemId := id, sizeBytes := size }

/-- A backend that deletes every item but one. -/
def deletesAllBut (kept : Int64) (_ : Unit) (c : BackendCall) : c.Outcome × Unit :=
  (match c with
    | .deleteLibraryItem id _ => if id = kept then .error .cancelled else .ok ()
    | _ => .error .cancelled, ())

/-- Of four items one is kept and one has no known size. -/
theorem reclaimed_of_known_sizes :
    let source := itemOfSize (some 4096)
    let selected := [copyOfSize 7 (some 512), copyOfSize 8 (some 1024), copyOfSize 9 none]
    (∀ m ∈ selected, m.itemId ≠ source.item.id) ∧
      ∃ report, (Procedure.run (deletesAllBut 7) (delete (runId 0) source selected) ()).1.result =
          some (.ok report) ∧
        report.outcome.tally.reclaimedBytes.toNat = 4096 + 1024 := by
  intro source selected
  have hne : ∀ m ∈ selected, m.itemId ≠ source.item.id := by decide
  obtain ⟨-, hreport, -⟩ := run_delete_reclaims (deletesAllBut 7) (runId 0) source selected () hne
  obtain ⟨report, hresult, -, hsum, -⟩ := hreport (by decide)
  exact ⟨hne, report, hresult, hsum.trans (by decide)⟩

/-- An item of the greatest size and a copy of two octets are both deleted, but there is no report,
and the deletion is never said to be finished. -/
theorem deleted_beyond_counter :
    let source := itemOfSize (some 18446744073709551615)
    let selected := [copyOfSize 9 (some 2)]
    let run := Procedure.run (deletesAllBut 0) (delete (runId 0) source selected) ()
    (Procedure.replies (deletesAllBut 0) run.1.calls ()).map Procedure.failure? = [none, none] ∧
      run.1.calls = [.deleteLibraryItem 9 (some 1), .deleteLibraryItem 1 none] ∧
      run.1.result = none ∧
      run.1.events = [.deletion (.started (runId 0).text source.ruleId 2)] := by
  intro source selected run
  have hne : ∀ m ∈ selected, m.itemId ≠ source.item.id := by decide
  have htrace : run.1 = _ :=
    trace_delete_of_none (deletesAllBut 0) (runId 0) () hne (by decide)
  rw [htrace]
  exact ⟨by decide, by decide, rfl, rfl⟩

end MediaMonitor.CrossServer
