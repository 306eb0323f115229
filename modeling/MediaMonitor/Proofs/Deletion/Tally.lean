import MediaMonitor.Deletion.Outcome

/-!
# Balanced tallies

Counts are compared by a sum that stops at the greatest counter, and corrected by differences of
counters.  Of three things one happens to a tally (`DeleteTally.Settled`): missing items are added
to the failed ones, a surplus is taken away, or nothing changes.  The counts of a reconciled tally
therefore account for exactly the items that were asked for (`DeleteTally.balanced_reconciled`), and
so do those of any outcome a deletion comes to.
-/

namespace MediaMonitor

namespace DeleteTally

/-- The counts account for exactly the items that were asked for. -/
def Balanced (t : DeleteTally) : Prop :=
  t.deleted.toNat + t.failed.toNat + t.skipped.toNat = t.requested.toNat

/-- The number of items whose fate is known, whether or not it is a counter. -/
def reported (t : DeleteTally) : Nat := t.deleted.toNat + t.failed.toNat + t.skipped.toNat

theorem balanced_iff {t : DeleteTally} : t.Balanced ↔ t.reported = t.requested.toNat := Iff.rfl

/-! ### Counters as numbers -/

theorem toNat_accounted (t : DeleteTally) :
    t.accounted.toNat = min t.reported (UInt64.size - 1) := by
  rw [accounted, toNat_saturatingAdd, toNat_saturatingAdd, reported]
  omega

theorem toNat_min (a b : UInt64) : (min a b).toNat = min a.toNat b.toNat := by
  have hmin : min a b = if a ≤ b then a else b := rfl
  rw [hmin]
  split
  · rename_i h
    have h := UInt64.le_iff_toNat_le.mp h
    omega
  · rename_i h
    have h := mt UInt64.le_iff_toNat_le.mpr h
    omega

theorem min_le (a b : UInt64) : min b a ≤ a :=
  UInt64.le_iff_toNat_le.mpr (by rw [toNat_min]; omega)

/-- Where less is wanted than there is, the rest is a difference of numbers. -/
theorem toNat_sub_min (a b : UInt64) :
    (a - min b a).toNat = a.toNat - min b.toNat a.toNat := by
  rw [UInt64.toNat_sub_of_le _ _ (min_le a b), toNat_min]

/-! ### The comparison -/

/-- The sum stops at the greatest counter, which no request exceeds: a shortfall is seen as it
is. -/
theorem accounted_lt_iff {t : DeleteTally} :
    t.accounted < t.requested ↔ t.reported < t.requested.toNat := by
  have hlt := t.requested.toNat_lt_size
  rw [UInt64.lt_iff_toNat_lt, toNat_accounted]
  omega

/-- A surplus is seen unless the greatest counter itself was asked for. -/
theorem lt_accounted_iff {t : DeleteTally} :
    t.requested < t.accounted ↔
      t.requested.toNat < t.reported ∧ t.requested.toNat < UInt64.size - 1 := by
  rw [UInt64.lt_iff_toNat_lt, toNat_accounted]
  omega

/-! ### What becomes of a tally -/

/-- The tally `t` is settled as another: with missing items made up for, a surplus trimmed, or as it
is. -/
inductive Settled (t : DeleteTally) : DeleteTally → Prop where
  | madeUp (missing : UInt64) (hpos : 0 < missing.toNat)
      (hsum : t.reported + missing.toNat = t.requested.toNat) :
      Settled t
        { t with failed := t.failed + missing, errors := t.errors ++ [unreported missing] }
  | trimmed (deleted failed skipped : UInt64) (hsurplus : t.requested.toNat < t.reported)
      (hmax : t.requested.toNat < UInt64.size - 1)
      (hdeleted : deleted.toNat = min t.deleted.toNat t.requested.toNat)
      (hfailed : failed.toNat = min t.failed.toNat (t.requested.toNat - deleted.toNat))
      (hskipped : skipped.toNat =
        min t.skipped.toNat (t.requested.toNat - deleted.toNat - failed.toNat)) :
      Settled t { t with deleted := deleted, failed := failed, skipped := skipped }
  | kept (hsum : t.reported = t.requested.toNat ∨
      t.requested.toNat = UInt64.size - 1 ∧ t.requested.toNat < t.reported) : Settled t t

/-- **A tally is settled in one of three ways.** -/
theorem settled_reconciled (t : DeleteTally) : t.Settled t.reconciled := by
  have hbound := t.requested.toNat_lt_size
  rw [reconciled]
  split
  case isTrue hlt =>
    have hmissing := UInt64.toNat_sub_of_le _ _ (UInt64.le_of_lt hlt)
    rw [accounted_lt_iff] at hlt
    rw [toNat_accounted] at hmissing
    exact .madeUp (t.requested - t.accounted) (by omega) (by omega)
  case isFalse hge =>
    split
    case isTrue hgt =>
      obtain ⟨hsurplus, hmax⟩ := lt_accounted_iff.mp hgt
      refine .trimmed _ _ _ hsurplus hmax (toNat_min ..) ?_ ?_
      · rw [toNat_min, toNat_sub_min, toNat_min]
      · simp only [toNat_min, toNat_sub_min]
    case isFalse hle =>
      refine .kept ?_
      rw [accounted_lt_iff] at hge
      rw [lt_accounted_iff] at hle
      omega

section
variable {t u : DeleteTally}

theorem Settled.requested (h : t.Settled u) : u.requested = t.requested := by cases h <;> rfl

/-- The failed items and the missing ones are no more than were asked for. -/
theorem toNat_failed_madeUp {missing : UInt64}
    (hsum : t.reported + missing.toNat = t.requested.toNat) :
    (t.failed + missing).toNat = t.failed.toNat + missing.toNat := by
  have hbound := t.requested.toNat_lt
  rw [reported] at hsum
  rw [UInt64.toNat_add]
  exact Nat.mod_eq_of_lt (by omega)

theorem Settled.balanced (h : t.Settled u) (hmax : t.requested.toNat < UInt64.size - 1) :
    u.Balanced := by
  rw [Balanced, h.requested]
  cases h with
  | madeUp missing hpos hsum =>
      have hfailed := toNat_failed_madeUp hsum
      simp only [reported] at hsum ⊢
      omega
  | trimmed deleted failed skipped hsurplus _ hdeleted hfailed hskipped =>
      simp only [reported] at hsurplus ⊢
      omega
  | kept hsum =>
      rw [reported] at hsum
      omega

end

theorem requested_reconciled (t : DeleteTally) : t.reconciled.requested = t.requested :=
  t.settled_reconciled.requested

/-- **A reconciled tally is balanced**, unless it was asked for so many items that a saturated count
cannot be told from it. -/
theorem balanced_reconciled {t : DeleteTally} (h : t.requested.toNat < UInt64.size - 1) :
    t.reconciled.Balanced :=
  t.settled_reconciled.balanced h

end DeleteTally

/-- An outcome has the tally it was made from. -/
theorem DeleteOutcome.tally_classify (t : DeleteTally) : (classify t).tally = t := by
  rw [classify]
  split
  · rfl
  · split
    · rfl
    · split <;> rfl

end MediaMonitor
