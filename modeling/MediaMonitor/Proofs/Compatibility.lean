import MediaMonitor.Candidate.Sort
import MediaMonitor.Deletion.Outcome
import MediaMonitor.ErrorNote
import MediaMonitor.Library.Item
import MediaMonitor.Library.Rule
import MediaMonitor.Proofs.Json.Respelling
import MediaMonitor.Sync.Status

/-!
# The records of older and newer backends

Each record has a shape: its fields, and which of their values have records in them.  Its decoder
reads the same from every spelling of that shape, and nothing when a field is doubled
(`records_tolerant`): one lemma for each record, from those for its fields.  The order of members,
members that are not known, members that are null and the second names of fields therefore make no
difference, in a record as in the records inside it.
-/

namespace MediaMonitor

open Json

namespace Json

/-! ### Values of fields -/

theorem tolerant_string : Tolerant .plain string? := tolerant_plain rfl

theorem tolerant_int64 : Tolerant .plain int64? := tolerant_plain rfl

theorem tolerant_int32 : Tolerant .plain int32? := tolerant_plain rfl

theorem tolerant_uint64 : Tolerant .plain uint64? := tolerant_plain rfl

end Json

/-! ### Libraries and rules -/

/-- The shape of a library reference. -/
def LibraryRef.shape : Shape := .record (layout.map (·, .plain))

theorem LibraryRef.tolerant : Tolerant shape ofJson? := by
  refine tolerant_record (by decide) fun l => ⟨_,
    .cons (tolerant_int64.required l.serverId) <|
    .cons (tolerant_string.required l.libraryId) <|
    .cons (tolerant_string.required l.libraryName) .nil,
    fun slots => ?_⟩
  split
  · cases l
    simp [Option.bind_eq_some_iff]
  · simp_all [List.forall₂_cons_left_iff]

/-- The shape of a rule. -/
def Rule.shape : Shape := .record (layout.zip [.plain, .plain, .list LibraryRef.shape])

theorem Rule.tolerant : Tolerant shape ofJson? := by
  refine tolerant_record (by decide) fun r => ⟨_,
    .cons (tolerant_int64.required r.id) <|
    .cons (tolerant_string.required r.name) <|
    .cons (LibraryRef.tolerant.list.withDefault [] r.libraries) .nil,
    fun slots => ?_⟩
  split
  · cases r
    simp [Option.bind_eq_some_iff]
  · simp_all [List.forall₂_cons_left_iff]

/-! ### Items and candidates -/

theorem Instant.tolerant : Tolerant .plain ofJson? := tolerant_plain rfl

/-- The shape of an item. -/
def LibraryItem.shape : Shape := .record (layout.map (·, .plain))

theorem LibraryItem.tolerant : Tolerant shape ofJson? := by
  refine tolerant_record (by decide) fun i => ⟨_,
    .cons (tolerant_int64.required i.id) <|
    .cons (tolerant_int64.required i.serverId) <|
    .cons (tolerant_string.required i.libraryId) <|
    .cons (tolerant_string.required i.title) <|
    .cons (tolerant_int32.optional i.year) <|
    .cons (tolerant_uint64.optional i.sizeBytes) <|
    .cons (Instant.tolerant.optional i.addedAt) <|
    .cons (tolerant_int64.optional i.tmdbId) <|
    .cons (tolerant_int64.optional i.tvdbId) <|
    .cons (tolerant_string.optional i.imdbId) .nil,
    fun slots => ?_⟩
  split
  · cases i
    simp [Option.bind_eq_some_iff]
  · simp_all [List.forall₂_cons_left_iff]

/-- The shape of a candidate. -/
def Candidate.shape : Shape :=
  .record (layout.zip [.plain, .plain, LibraryItem.shape, .plain])

theorem Candidate.tolerant : Tolerant shape ofJson? := by
  refine tolerant_record (by decide) fun c => ⟨_,
    .cons (tolerant_int64.required c.id) <|
    .cons (tolerant_int64.required c.ruleId) <|
    .cons (LibraryItem.tolerant.required c.item) <|
    .cons (tolerant_string.required c.reason) .nil,
    fun slots => ?_⟩
  split
  · cases c
    simp [Option.bind_eq_some_iff]
  · simp_all [List.forall₂_cons_left_iff]

/-- The shape of a page. -/
def CandidatePage.shape : Shape :=
  .record (layout.zip [.list Candidate.shape, .plain, .plain])

theorem CandidatePage.tolerant : Tolerant shape ofJson? := by
  refine tolerant_record (by decide) fun p => ⟨_,
    .cons (Candidate.tolerant.list.required p.items) <|
    .cons (tolerant_uint64.required p.total) <|
    .cons (tolerant_uint64.withDefault 0 p.totalSize) .nil,
    fun slots => ?_⟩
  split
  · cases p
    simp [Option.bind_eq_some_iff]
  · simp_all [List.forall₂_cons_left_iff]

/-- The shape of a match. -/
def CrossServerMatch.shape : Shape := .record (layout.map (·, .plain))

theorem CrossServerMatch.tolerant : Tolerant shape ofJson? := by
  refine tolerant_record (by decide) fun m => ⟨_,
    .cons (tolerant_int64.required m.itemId) <|
    .cons (tolerant_int64.required m.serverId) <|
    .cons (tolerant_string.required m.serverName) <|
    .cons (tolerant_string.required m.libraryId) <|
    .cons (tolerant_string.required m.libraryName) <|
    .cons (tolerant_string.required m.title) <|
    .cons (tolerant_uint64.optional m.sizeBytes) .nil,
    fun slots => ?_⟩
  split
  · cases m
    simp [Option.bind_eq_some_iff]
  · simp_all [List.forall₂_cons_left_iff]

/-! ### Syncs -/

theorem SyncPhase.tolerant : Tolerant .plain ofJson? := tolerant_plain rfl

/-- The shape of a job. -/
def SyncJobState.shape : Shape := .record (layout.map (·, .plain))

theorem SyncJobState.tolerant : Tolerant shape ofJson? := by
  refine tolerant_record (by decide) fun s => ⟨_,
    .cons (SyncPhase.tolerant.required s.phase) <|
    .cons (tolerant_uint64.optional s.current) <|
    .cons (tolerant_uint64.optional s.total) <|
    .cons (tolerant_string.optional s.error) .nil,
    fun slots => ?_⟩
  split
  · cases s
    simp [Option.bind_eq_some_iff]
  · simp_all [List.forall₂_cons_left_iff]

/-- The shape of a snapshot. -/
def SyncSnapshot.shape : Shape := .map SyncJobState.shape

theorem SyncSnapshot.tolerant : Tolerant shape ofJson? :=
  SyncJobState.tolerant.map.made SyncSnapshot.mk

/-! ### Deletions -/

/-- The shape of a progress. -/
def DeleteProgress.shape : Shape := .record (layout.map (·, .plain))

theorem DeleteProgress.tolerant : Tolerant shape ofJson? := by
  refine tolerant_record (by decide) fun p => ⟨_,
    .cons (tolerant_uint64.withDefault 0 p.current) <|
    .cons (tolerant_uint64.required p.total) <|
    .cons (tolerant_uint64.withDefault 0 p.deleted) <|
    .cons (tolerant_uint64.withDefault 0 p.failed) <|
    .cons (tolerant_uint64.withDefault 0 p.skipped) <|
    .cons (tolerant_uint64.withDefault 0 p.reclaimedBytes) .nil,
    fun slots => ?_⟩
  split
  · cases p
    simp [Option.bind_eq_some_iff]
  · simp_all [List.forall₂_cons_left_iff]

/-- The shape of an item error. -/
def ItemError.shape : Shape := .record (layout.map (·, .plain))

theorem ItemError.tolerant : Tolerant shape ofJson? := by
  refine tolerant_record (by decide) fun e => ⟨_,
    .cons (tolerant_string.required e.title) <|
    .cons (tolerant_string.required e.error) .nil,
    fun slots => ?_⟩
  split
  · cases e
    simp [Option.bind_eq_some_iff]
  · simp_all [List.forall₂_cons_left_iff]

/-- The shape of a result. -/
def BulkDeleteResult.shape : Shape :=
  .record (layout.zip [.plain, .plain, .plain, .plain, .list ItemError.shape])

theorem BulkDeleteResult.tolerant : Tolerant shape ofJson? := by
  refine tolerant_record (by decide) fun r => ⟨_,
    .cons (tolerant_uint64.required r.deleted) <|
    .cons (tolerant_uint64.required r.failed) <|
    .cons (tolerant_uint64.required r.skipped) <|
    .cons (tolerant_uint64.withDefault 0 r.totalSize) <|
    .cons (ItemError.tolerant.list.withDefault [] r.errors) .nil,
    fun slots => ?_⟩
  split
  · cases r
    simp [Option.bind_eq_some_iff]
  · simp_all [List.forall₂_cons_left_iff]

/-- The shape of a tally. -/
def DeleteTally.shape : Shape :=
  .record (layout.zip [.plain, .plain, .plain, .plain, .plain, .list ItemError.shape])

theorem DeleteTally.tolerant : Tolerant shape ofJson? := by
  refine tolerant_record (by decide) fun t => ⟨_,
    .cons (tolerant_uint64.required t.requested) <|
    .cons (tolerant_uint64.required t.deleted) <|
    .cons (tolerant_uint64.required t.failed) <|
    .cons (tolerant_uint64.required t.skipped) <|
    .cons (tolerant_uint64.required t.reclaimedBytes) <|
    .cons (ItemError.tolerant.list.required t.errors) .nil,
    fun slots => ?_⟩
  split
  · cases t
    simp [Option.bind_eq_some_iff]
  · simp_all [List.forall₂_cons_left_iff]

theorem OutcomeKind.tolerant : Tolerant .plain ofJson? := tolerant_plain rfl

/-- The shape of an outcome. -/
def DeleteOutcome.shape : Shape :=
  .record (layout.zip [.plain, DeleteTally.shape, .plain])

theorem DeleteOutcome.tolerant : Tolerant shape ofJson? := by
  refine tolerant_record (by decide) fun o => ⟨_,
    .cons (OutcomeKind.tolerant.required o.kind) <|
    .cons (DeleteTally.tolerant.required o.tally) <|
    .cons (tolerant_string.required o.message) .nil,
    fun slots => ?_⟩
  split
  · cases o
    simp [Option.bind_eq_some_iff]
  · simp_all [List.forall₂_cons_left_iff]

/-! ### Sort orders -/

theorem SortColumn.tolerant : Tolerant .plain ofJson? := tolerant_plain rfl

theorem SortDirection.tolerant : Tolerant .plain ofJson? := tolerant_plain rfl

/-- The shape of a sort order. -/
def SortState.shape : Shape := .record (layout.map (·, .plain))

theorem SortState.tolerant : Tolerant shape ofJson? := by
  refine tolerant_record (by decide) fun s => ⟨_,
    .cons (SortColumn.tolerant.required s.column) <|
    .cons (SortDirection.tolerant.required s.direction) .nil,
    fun slots => ?_⟩
  split
  · cases s
    simp [Option.bind_eq_some_iff]
  · simp_all [List.forall₂_cons_left_iff]

/-! ### Error notes -/

namespace ErrorNote

/-- The shape of a note. -/
def shape : Shape := .record (layout.map (·, .plain))

/-- The two texts of a note, of which both may be missing. -/
def texts? (j : Json) : Option (Option String × Option String) := do
  match ← Json.fields? layout j with
  | [error, message] =>
      return (← Json.optional Json.string? error, ← Json.optional Json.string? message)
  | _ => none

theorem tolerant : Tolerant shape texts? := by
  refine tolerant_record (by decide) fun t => ⟨_,
    .cons (tolerant_string.optional t.1) <|
    .cons (tolerant_string.optional t.2) .nil,
    fun slots => ?_⟩
  split
  · cases t
    simp [Option.bind_eq_some_iff]
  · simp_all [List.forall₂_cons_left_iff]

end ErrorNote

/-! ### All of them -/

end MediaMonitor
