import MediaMonitor.Deletion.Outcome
import MediaMonitor.Proofs.Deletion.Reconciled

/-!
# Classified results

The kind of an outcome is decided by counts that were reconciled before.  Said of the counts that
the server reported (`DeleteOutcome.kind_of_result`): a deletion is a success when as many items
were deleted as were asked for, an error when none was deleted and not all were skipped, and a
partial success otherwise.
-/

namespace MediaMonitor

/-! ### The kind of an outcome -/

namespace DeleteOutcome

variable {t : DeleteTally}

theorem kind_eq_success :
    (classify t).kind = .success ↔ 0 < t.deleted ∧ t.failed = 0 ∧ t.skipped = 0 := by
  rw [classify]
  split
  case isTrue h => exact iff_of_true rfl h
  case isFalse h =>
    refine iff_of_false ?_ h
    split
    · simp
    · split <;> simp

theorem kind_eq_error :
    (classify t).kind = .error ↔ t.deleted = 0 ∧ ¬ (t.failed = 0 ∧ 0 < t.skipped) := by
  have hpos : 0 < t.deleted ↔ t.deleted ≠ 0 := UInt64.pos_iff_ne_zero
  rw [classify]
  split
  case isTrue h => exact iff_of_false (by simp) (fun hzero => hpos.mp h.1 hzero.1)
  case isFalse =>
    split
    case isTrue h => exact iff_of_false (by simp) (fun hzero => hpos.mp h hzero.1)
    case isFalse hnone =>
      have hzero : t.deleted = 0 := Decidable.not_not.mp (fun hne => hnone (hpos.mpr hne))
      split
      case isTrue h => exact iff_of_false (by simp) (fun hboth => hboth.2 h)
      case isFalse h => exact iff_of_true rfl ⟨hzero, h⟩

/-- An outcome calls for no refresh if and only if it is an error: an error deleted nothing. -/
theorem needsRefresh_classify :
    (classify t).needsRefresh = false ↔ (classify t).kind = .error := by
  rw [needsRefresh, Bool.not_eq_false', Bool.and_eq_true, decide_eq_true_iff, decide_eq_true_iff,
    tally_classify, and_iff_left_iff_imp]
  exact fun h => (kind_eq_error.mp h).1

end DeleteOutcome

/-! ### Reported counts -/

namespace DeleteTally

variable {t u : DeleteTally}

/-- Settling credits what was deleted, up to what was asked for. -/
theorem Settled.toNat_deleted (h : t.Settled u) (hmax : t.requested.toNat < UInt64.size - 1) :
    u.deleted.toNat = min t.deleted.toNat t.requested.toNat := by
  cases h with
  | madeUp missing hpos hsum =>
      simp only [reported] at hsum ⊢
      omega
  | trimmed _ _ _ _ _ hdeleted => exact hdeleted
  | kept hsum =>
      rw [reported] at hsum
      omega

/-- Where nothing was deleted, nothing failed in the end if and only if nothing was said to fail
and all was skipped. -/
theorem Settled.failed_eq_zero (h : t.Settled u) (hmax : t.requested.toNat < UInt64.size - 1)
    (hpos : 0 < t.requested.toNat) (hdeleted : t.deleted.toNat = 0) :
    u.failed.toNat = 0 ↔ t.failed.toNat = 0 ∧ t.requested.toNat ≤ t.skipped.toNat := by
  cases h with
  | madeUp missing hmissing hsum =>
      have hfailed := toNat_failed_madeUp hsum
      simp only [reported] at hsum ⊢
      omega
  | trimmed deleted failed _ hsurplus _ _ hfailed =>
      simp only [reported] at hsurplus ⊢
      omega
  | kept hsum =>
      rw [reported] at hsum
      omega

/-- No error is lost. -/
theorem Settled.errors_prefix (h : t.Settled u) : t.errors <+: u.errors := by
  cases h with
  | madeUp => exact List.prefix_append ..
  | trimmed => exact List.prefix_rfl
  | kept => exact List.prefix_rfl

end DeleteTally

/-! ### Results -/

namespace BulkDeleteResult

/-- The counts of a result as they were reported, for a request of so many items. -/
def tally (r : BulkDeleteResult) (requested : UInt64) : DeleteTally where
  requested := requested
  deleted := r.deleted
  failed := r.failed
  skipped := r.skipped
  reclaimedBytes := r.totalSize
  errors := r.errors

theorem settled_ofResult (r : BulkDeleteResult) (requested : UInt64) :
    (r.tally requested).Settled (.ofResult requested r) :=
  DeleteTally.settled_reconciled (r.tally requested)

end BulkDeleteResult

namespace DeleteOutcome

/-- **The kind of an outcome, by the counts that the server reported.**  As many deleted as were
asked for make a success, none deleted and not all skipped an error, and anything else is a partial
success; only an error calls for no refresh.  The outcome credits what the server reported to be
deleted, up to what was asked for, and keeps the errors of the result, in their order. -/
theorem kind_of_result {requested : UInt64} (hpos : 0 < requested)
    (hmax : requested.toNat < UInt64.size - 1) (r : BulkDeleteResult) :
    let o := classify (.ofResult requested r)
    (o.kind = .success ↔ requested ≤ r.deleted) ∧
      (o.kind = .error ↔ r.deleted = 0 ∧ (0 < r.failed ∨ r.skipped < requested)) ∧
      (o.kind = .partly ↔
        ¬ requested ≤ r.deleted ∧ ¬ (r.deleted = 0 ∧ (0 < r.failed ∨ r.skipped < requested))) ∧
      (o.needsRefresh = false ↔ o.kind = .error) ∧
      o.tally.deleted = min r.deleted requested ∧
      r.errors <+: o.tally.errors := by
  intro o
  have hsettled := r.settled_ofResult requested
  have hbalanced := hsettled.balanced hmax
  rw [DeleteTally.Balanced, hsettled.requested] at hbalanced
  have hdeleted := hsettled.toNat_deleted hmax
  rw [UInt64.lt_iff_toNat_lt, UInt64.toNat_zero] at hpos
  have hsuccess : o.kind = .success ↔ requested ≤ r.deleted := by
    rw [kind_eq_success, UInt64.lt_iff_toNat_lt, UInt64.le_iff_toNat_le, ← UInt64.toNat_inj,
      ← UInt64.toNat_inj, UInt64.toNat_zero]
    simp only [BulkDeleteResult.tally] at hbalanced hdeleted
    omega
  have herror : o.kind = .error ↔ r.deleted = 0 ∧ (0 < r.failed ∨ r.skipped < requested) := by
    have hfailed := hsettled.failed_eq_zero hmax hpos
    rw [kind_eq_error, UInt64.lt_iff_toNat_lt, UInt64.lt_iff_toNat_lt, UInt64.lt_iff_toNat_lt,
      ← UInt64.toNat_inj, ← UInt64.toNat_inj, ← UInt64.toNat_inj, UInt64.toNat_zero]
    simp only [BulkDeleteResult.tally] at hbalanced hdeleted hfailed
    omega
  refine ⟨hsuccess, herror, ?_, needsRefresh_classify, ?_, ?_⟩
  · rw [← hsuccess, ← herror]
    cases o.kind <;> decide
  · rw [tally_classify, ← UInt64.toNat_inj, DeleteTally.toNat_min]
    exact hdeleted
  · rw [tally_classify]
    exact hsettled.errors_prefix

/-- Nothing was deleted, and the other counts are as great as can be: an error that calls for no
refresh. -/
theorem kind_of_overflowing_result :
    let r : BulkDeleteResult :=
      ⟨0, 18446744073709551615, 18446744073709551615, 0, [⟨"Dune", "locked"⟩]⟩
    (0 : UInt64) < 3 ∧ (3 : UInt64).toNat < UInt64.size - 1 ∧
      (classify (.ofResult 3 r)).kind = .error ∧
      (classify (.ofResult 3 r)).needsRefresh = false ∧
      r.errors <+: (classify (.ofResult 3 r)).tally.errors := by
  intro r
  have hpos : (0 : UInt64) < 3 := by decide
  have hmax : (3 : UInt64).toNat < UInt64.size - 1 := by decide
  obtain ⟨-, herror, -, hrefresh, -, herrors⟩ := kind_of_result hpos hmax r
  have hkind := herror.mpr ⟨rfl, .inl (by decide)⟩
  exact ⟨hpos, hmax, hkind, hrefresh.mpr hkind, herrors⟩

end DeleteOutcome

end MediaMonitor
