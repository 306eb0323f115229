import MediaMonitor.Proofs.Deletion.Tally
import MediaMonitor.Proofs.Number.Checked

/-!
# Reconciled tallies

What reconciling does to the counts of a tally is read off the three ways in which it is settled:
which counts may change, in which order a surplus is taken from them, and that the correction is
done once and for all (`DeleteTally.counts_of_reconciled`).  Its sums and differences stay among the
counters: with checked ones it comes to the same (`DeleteTally.reconciledChecked?_eq`).
-/

namespace MediaMonitor

namespace DeleteTally

/-! ### Checked arithmetic -/

/-- The counts reconciled by sums and differences that must not leave the counters. -/
def reconciledChecked? (t : DeleteTally) : Option DeleteTally :=
  if t.accounted < t.requested then do
    let missing ← checkedSub t.requested t.accounted
    let failed ← checkedAdd t.failed missing
    return { t with failed := failed, errors := t.errors ++ [unreported missing] }
  else if t.requested < t.accounted then do
    let deleted := min t.deleted t.requested
    let undeleted ← checkedSub t.requested deleted
    let failed := min t.failed undeleted
    let rest ← checkedSub undeleted failed
    return { t with deleted := deleted, failed := failed, skipped := min t.skipped rest }
  else some t

/-- No sum and no difference leaves the counters. -/
theorem reconciledChecked?_eq (t : DeleteTally) : t.reconciledChecked? = some t.reconciled := by
  rw [reconciledChecked?, reconciled]
  split
  case isTrue hlt =>
    have hle := UInt64.le_of_lt hlt
    have hmissing := UInt64.toNat_sub_of_le _ _ hle
    rw [toNat_accounted, reported] at hmissing
    rw [accounted_lt_iff, reported] at hlt
    have hbound := t.requested.toNat_lt_size
    have hfit : t.failed.toNat + (t.requested - t.accounted).toNat < UInt64.size := by omega
    rw [checkedSub_of_le hle, Option.bind_eq_bind, Option.bind_some, checkedAdd_of_lt hfit]
    rfl
  case isFalse =>
    split
    case isTrue =>
      simp only [checkedSub_of_le (min_le _ _)]
      rfl
    case isFalse => rfl

/-! ### What the correction does -/

/-- The missing items failed, and one error says so. -/
structure MadeUp (t u : DeleteTally) (missing : UInt64) : Prop where
  shortfall : t.reported + missing.toNat = t.requested.toNat
  failed : u.failed.toNat = t.failed.toNat + missing.toNat
  errors : u.errors = t.errors ++ [unreported missing]
  rest : u = { t with failed := u.failed, errors := u.errors }

/-- A surplus is taken from the skipped items, from the failed ones only when none of the skipped
is left, and from the deleted ones only when none of the others is left. -/
structure Trimmed (t u : DeleteTally) : Prop where
  deleted : u.deleted ≤ t.deleted
  failed : u.failed ≤ t.failed
  skipped : u.skipped ≤ t.skipped
  errors : u.errors = t.errors
  ofFailed : u.failed < t.failed → u.skipped = 0
  ofDeleted : u.deleted < t.deleted → u.failed = 0 ∧ u.skipped = 0

section
variable {t u : DeleteTally}

theorem Settled.reclaimedBytes (h : t.Settled u) : u.reclaimedBytes = t.reclaimedBytes := by
  cases h <;> rfl

theorem isBalanced_iff :
    t.isBalanced ↔ min t.reported (UInt64.size - 1) = t.requested.toNat := by
  rw [isBalanced, decide_eq_true_iff, ← UInt64.toNat_inj, toNat_accounted]

/-- Settled counts seem to account for the items asked for, also where the sum is cut down to what
was asked for. -/
theorem Settled.isBalanced (h : t.Settled u) : u.isBalanced := by
  rw [isBalanced_iff, h.requested]
  have hbound := t.requested.toNat_lt_size
  cases h with
  | madeUp missing hpos hsum =>
      have hfailed := toNat_failed_madeUp hsum
      simp only [reported] at hsum ⊢
      omega
  | trimmed deleted failed skipped hsurplus hmax hdeleted hfailed hskipped =>
      simp only [reported] at hsurplus ⊢
      omega
  | kept hsum => omega

/-- Counts that seem to account for the items asked for are left alone. -/
theorem reconciled_of_isBalanced (h : t.isBalanced) : t.reconciled = t := by
  have heq : t.accounted = t.requested := of_decide_eq_true h
  have hlt : ¬ t.requested < t.requested := UInt64.lt_irrefl _
  rw [reconciled, heq, if_neg hlt, if_neg hlt]

theorem Settled.exists_madeUp (h : t.Settled u) (hlt : t.reported < t.requested.toNat) :
    ∃ missing, MadeUp t u missing := by
  cases h with
  | madeUp missing hpos hsum => exact ⟨missing, hsum, toNat_failed_madeUp hsum, rfl, rfl⟩
  | trimmed _ _ _ hsurplus => omega
  | kept hsum => omega

theorem Settled.trimmed_of_surplus (h : t.Settled u) (hlt : t.requested.toNat < t.reported) :
    Trimmed t u := by
  cases h with
  | madeUp missing hpos hsum => omega
  | trimmed deleted failed skipped hsurplus hmax hdeleted hfailed hskipped =>
      constructor <;>
        simp only [UInt64.le_iff_toNat_le, UInt64.lt_iff_toNat_lt, ← UInt64.toNat_inj,
          UInt64.toNat_zero] <;> omega
  | kept =>
      exact ⟨UInt64.le_refl _, UInt64.le_refl _, UInt64.le_refl _, rfl,
        fun hlt => absurd hlt (UInt64.lt_irrefl _), fun hlt => absurd hlt (UInt64.lt_irrefl _)⟩

theorem Settled.eq_of_balanced (h : t.Settled u) (heq : t.reported = t.requested.toNat) :
    u = t := by
  cases h with
  | madeUp => omega
  | trimmed => omega
  | kept => rfl

end

/-- **Reconciled counts account for the items asked for**, and the correction never leaves the
counters.  Items of which nothing was said are failed, with one error for all of them; a surplus is
taken from the skipped first and from the deleted last; counts that add up are left as they are, and
so is a tally that was reconciled before.  The counts add up exactly unless the greatest counter
itself was asked for, to which every greater sum is cut down. -/
theorem counts_of_reconciled (t : DeleteTally) :
    t.reconciledChecked? = some t.reconciled ∧
      t.reconciled.isBalanced ∧
      t.reconciled.reconciled = t.reconciled ∧
      t.reconciled.requested = t.requested ∧
      t.reconciled.reclaimedBytes = t.reclaimedBytes ∧
      (t.requested.toNat < UInt64.size - 1 → t.reconciled.reported = t.requested.toNat) ∧
      (t.reported < t.requested.toNat → ∃ missing, MadeUp t t.reconciled missing) ∧
      (t.requested.toNat < t.reported → Trimmed t t.reconciled) ∧
      (t.reported = t.requested.toNat → t.reconciled = t) := by
  have hsettled := settled_reconciled t
  refine ⟨reconciledChecked?_eq t, hsettled.isBalanced,
    reconciled_of_isBalanced hsettled.isBalanced, hsettled.requested, hsettled.reclaimedBytes,
    fun hmax => ?_, hsettled.exists_madeUp, hsettled.trimmed_of_surplus, hsettled.eq_of_balanced⟩
  rw [← requested_reconciled]
  exact balanced_iff.mp (balanced_reconciled hmax)

/-- Counts whose sum is no counter: the surplus is taken away all the same. -/
example :
    reconciled { requested := 4, deleted := 3, failed := 18446744073709551615, skipped := 1 } =
      { requested := 4, deleted := 3, failed := 1 } := by decide

end DeleteTally

end MediaMonitor
