import MediaMonitor.Candidate.Sort
import MediaMonitor.Deletion.Outcome
import MediaMonitor.Library.Item
import MediaMonitor.Library.Rule
import MediaMonitor.Proofs.Calendar.Instant
import MediaMonitor.Proofs.Json.Record
import MediaMonitor.Proofs.SortedMap
import MediaMonitor.Sync.Status

/-!
# The records of the backend are read as they are written

One lemma for each record, from those for its fields: its text is read again, and the record is
decoded from what is read (`records_read_back`).  Nothing is asked of the strings and numbers in it,
but an instant has to lie in the years 0 to 9999, which are written without a sign.  The jobs of a
snapshot have no order of their own, so a snapshot is read from its jobs in any order.
-/

namespace MediaMonitor

open Json

/-! ### Named values -/

theorem SyncPhase.readBack (p : SyncPhase) :
    ReadBack (fun p : SyncPhase => .string p.name) SyncPhase.ofJson? p :=
  ⟨legible_string _, by cases p <;> decide⟩

theorem SortColumn.readBack (c : SortColumn) :
    ReadBack (fun c : SortColumn => .string c.name) SortColumn.ofJson? c :=
  ⟨legible_string _, by cases c <;> decide⟩

theorem SortDirection.readBack (d : SortDirection) :
    ReadBack (fun d : SortDirection => .string d.name) SortDirection.ofJson? d :=
  ⟨legible_string _, by cases d <;> decide⟩

theorem OutcomeKind.readBack (k : OutcomeKind) :
    ReadBack (fun k : OutcomeKind => .string k.name) OutcomeKind.ofJson? k :=
  ⟨legible_string _, by cases k <;> decide⟩

/-! ### Libraries and rules -/

theorem LibraryRef.readBack (l : LibraryRef) : ReadBack toJson ofJson? l where
  legible := legible_object (by simp [(readBack_int64 _).legible, (readBack_string _).legible])
  decoded := by
    rw [ofJson?, toJson, fields?_object (by decide) rfl]
    simp [required, (readBack_int64 _).decoded, (readBack_string _).decoded]

theorem Rule.readBack (r : Rule) : ReadBack toJson ofJson? r := by
  have hlibraries := readBack_list (fun l (_ : l ∈ r.libraries) => l.readBack)
  refine ⟨legible_object ?_, ?_⟩
  · simp [(readBack_int64 _).legible, (readBack_string _).legible, hlibraries.legible]
  · rw [ofJson?, toJson, fields?_object (by decide) rfl]
    simp [required, withDefault, (readBack_int64 _).decoded, (readBack_string _).decoded,
      hlibraries.decoded]

/-! ### Items and candidates -/

/-- The instant lies in one of the years that are written without a sign. -/
def Instant.InUnsignedYear (t : Instant) : Prop := 0 ≤ t.date.year ∧ t.date.year ≤ 9999

theorem Instant.readBack {t : Instant} (ht : t.InUnsignedYear) : ReadBack toJson ofJson? t :=
  ⟨legible_string _, ofText?_write ht⟩

/-- The item was added in one of the years that are written without a sign, if it is known when. -/
def LibraryItem.InUnsignedYear (i : LibraryItem) : Prop := ∀ t ∈ i.addedAt, t.InUnsignedYear

theorem LibraryItem.readBack {i : LibraryItem} (hi : i.InUnsignedYear) :
    ReadBack toJson ofJson? i := by
  have hyear := readBack_optional rfl (fun y (_ : y ∈ i.year) => readBack_int32 y)
  have hsize := readBack_optional rfl (fun n (_ : n ∈ i.sizeBytes) => readBack_uint64 n)
  have hadded := readBack_optional rfl (fun t ht => Instant.readBack (hi t ht))
  have htmdb := readBack_optional rfl (fun n (_ : n ∈ i.tmdbId) => readBack_int64 n)
  have htvdb := readBack_optional rfl (fun n (_ : n ∈ i.tvdbId) => readBack_int64 n)
  have himdb := readBack_optional rfl (fun s (_ : s ∈ i.imdbId) => readBack_string s)
  refine ⟨legible_object ?_, ?_⟩
  · simp [(readBack_int64 _).legible, (readBack_string _).legible, hyear.legible, hsize.legible,
      hadded.legible, htmdb.legible, htvdb.legible, himdb.legible]
  · rw [ofJson?, toJson, fields?_object (by decide) rfl]
    simp [required, (readBack_int64 _).decoded, (readBack_string _).decoded, hyear.decoded,
      hsize.decoded, hadded.decoded, htmdb.decoded, htvdb.decoded, himdb.decoded]

theorem Candidate.readBack {c : Candidate} (hc : c.item.InUnsignedYear) :
    ReadBack toJson ofJson? c := by
  have hitem := LibraryItem.readBack hc
  refine ⟨legible_object ?_, ?_⟩
  · simp [(readBack_int64 _).legible, (readBack_string _).legible, hitem.legible]
  · rw [ofJson?, toJson, fields?_object (by decide) rfl]
    simp [required, (readBack_int64 _).decoded, (readBack_string _).decoded, hitem.decoded]

theorem CandidatePage.readBack {p : CandidatePage} (hp : ∀ c ∈ p.items, c.item.InUnsignedYear) :
    ReadBack toJson ofJson? p := by
  have hitems := readBack_list (fun c hc => Candidate.readBack (hp c hc))
  refine ⟨legible_object ?_, ?_⟩
  · simp [(readBack_uint64 _).legible, hitems.legible]
  · rw [ofJson?, toJson, fields?_object (by decide) rfl]
    simp [required, withDefault, (readBack_uint64 _).decoded, hitems.decoded]

theorem CrossServerMatch.readBack (m : CrossServerMatch) : ReadBack toJson ofJson? m := by
  have hsize := readBack_optional rfl (fun n (_ : n ∈ m.sizeBytes) => readBack_uint64 n)
  refine ⟨legible_object ?_, ?_⟩
  · simp [(readBack_int64 _).legible, (readBack_string _).legible, hsize.legible]
  · rw [ofJson?, toJson, fields?_object (by decide) rfl]
    simp [required, (readBack_int64 _).decoded, (readBack_string _).decoded, hsize.decoded]

/-! ### Syncs -/

theorem SyncJobState.readBack (s : SyncJobState) : ReadBack toJson ofJson? s := by
  have hphase := s.phase.readBack
  have hcurrent := readBack_optional rfl (fun n (_ : n ∈ s.current) => readBack_uint64 n)
  have htotal := readBack_optional rfl (fun n (_ : n ∈ s.total) => readBack_uint64 n)
  have herror := readBack_optional rfl (fun e (_ : e ∈ s.error) => readBack_string e)
  refine ⟨legible_object ?_, ?_⟩
  · simp [hphase.legible, hcurrent.legible, htotal.legible, herror.legible]
  · rw [ofJson?, toJson, fields?_object (by decide) rfl]
    simp [required, hphase.decoded, hcurrent.decoded, htotal.decoded, herror.decoded]

/-- A snapshot is read from its jobs in any order. -/
theorem SyncSnapshot.readBack_of_perm {s : SyncSnapshot} {jobs : List (String × SyncJobState)}
    (hjobs : jobs.Perm s.jobs.entries) :
    ReadBack (fun _ => .object (jobs.map (fun e => (e.1, e.2.toJson)))) ofJson? s where
  legible := legible_object (by
    rintro m hm
    obtain ⟨e, -, rfl⟩ := List.mem_map.mp hm
    exact e.2.readBack.legible)
  decoded := by
    have hdecoded := mapM_map (l := jobs) (g := id)
      (f := fun m => (SyncJobState.ofJson? m.2).map (fun a => (m.1, a)))
      (e := fun e => (e.1, e.2.toJson)) (fun e _ => by rw [e.2.readBack.decoded]; rfl)
    rw [ofJson?, map?, hdecoded, List.map_id, Option.map_some, SortedMap.ofList_of_perm hjobs]
    rfl

/-! ### Deletions -/

theorem DeleteProgress.readBack (p : DeleteProgress) : ReadBack toJson ofJson? p where
  legible := legible_object (by simp [(readBack_uint64 _).legible])
  decoded := by
    rw [ofJson?, toJson, fields?_object (by decide) rfl]
    simp [required, withDefault, (readBack_uint64 _).decoded]

theorem ItemError.readBack (e : ItemError) : ReadBack toJson ofJson? e where
  legible := legible_object (by simp [(readBack_string _).legible])
  decoded := by
    rw [ofJson?, toJson, fields?_object (by decide) rfl]
    simp [required, (readBack_string _).decoded]

theorem BulkDeleteResult.readBack (r : BulkDeleteResult) : ReadBack toJson ofJson? r := by
  have herrors := readBack_list (fun e (_ : e ∈ r.errors) => e.readBack)
  refine ⟨legible_object ?_, ?_⟩
  · simp [(readBack_uint64 _).legible, herrors.legible]
  · rw [ofJson?, toJson, fields?_object (by decide) rfl]
    simp [required, withDefault, (readBack_uint64 _).decoded, herrors.decoded]

theorem SortState.readBack (s : SortState) : ReadBack toJson ofJson? s where
  legible := legible_object (by simp [s.column.readBack.legible, s.direction.readBack.legible])
  decoded := by
    rw [ofJson?, toJson, fields?_object (by decide) rfl]
    simp [required, s.column.readBack.decoded, s.direction.readBack.decoded]

theorem DeleteTally.readBack (t : DeleteTally) : ReadBack toJson ofJson? t := by
  have herrors := readBack_list (fun e (_ : e ∈ t.errors) => e.readBack)
  refine ⟨legible_object ?_, ?_⟩
  · simp [(readBack_uint64 _).legible, herrors.legible]
  · rw [ofJson?, toJson, fields?_object (by decide) rfl]
    simp [required, (readBack_uint64 _).decoded, herrors.decoded]

theorem DeleteOutcome.readBack (o : DeleteOutcome) : ReadBack toJson ofJson? o where
  legible := legible_object (by
    simp [o.kind.readBack.legible, o.tally.readBack.legible, (readBack_string _).legible])
  decoded := by
    rw [ofJson?, toJson, fields?_object (by decide) rfl]
    simp [required, o.kind.readBack.decoded, o.tally.readBack.decoded, (readBack_string _).decoded]

/-! ### All of them -/

/-- **Every record is read from its text**: what is decoded from the text that a record is written
as is this record, whatever its strings hold and its numbers are, as long as an instant in it lies
in the years 0 to 9999. -/
theorem records_read_back :
    (∀ l : LibraryRef, (Json.ofText? l.toJson.write).bind LibraryRef.ofJson? = some l) ∧
    (∀ r : Rule, (Json.ofText? r.toJson.write).bind Rule.ofJson? = some r) ∧
    (∀ i : LibraryItem, i.InUnsignedYear →
      (Json.ofText? i.toJson.write).bind LibraryItem.ofJson? = some i) ∧
    (∀ c : Candidate, c.item.InUnsignedYear →
      (Json.ofText? c.toJson.write).bind Candidate.ofJson? = some c) ∧
    (∀ p : CandidatePage, (∀ c ∈ p.items, c.item.InUnsignedYear) →
      (Json.ofText? p.toJson.write).bind CandidatePage.ofJson? = some p) ∧
    (∀ s : SyncJobState, (Json.ofText? s.toJson.write).bind SyncJobState.ofJson? = some s) ∧
    (∀ (s : SyncSnapshot) (jobs : List (String × SyncJobState)), jobs.Perm s.jobs.entries →
      (Json.ofText? (Json.object (jobs.map (fun e => (e.1, e.2.toJson)))).write).bind
        SyncSnapshot.ofJson? = some s) ∧
    (∀ s : SyncSnapshot, (Json.ofText? s.toJson.write).bind SyncSnapshot.ofJson? = some s) ∧
    (∀ p : DeleteProgress, (Json.ofText? p.toJson.write).bind DeleteProgress.ofJson? = some p) ∧
    (∀ e : ItemError, (Json.ofText? e.toJson.write).bind ItemError.ofJson? = some e) ∧
    (∀ r : BulkDeleteResult,
      (Json.ofText? r.toJson.write).bind BulkDeleteResult.ofJson? = some r) ∧
    (∀ m : CrossServerMatch,
      (Json.ofText? m.toJson.write).bind CrossServerMatch.ofJson? = some m) ∧
    (∀ s : SortState, (Json.ofText? s.toJson.write).bind SortState.ofJson? = some s) ∧
    (∀ t : DeleteTally, (Json.ofText? t.toJson.write).bind DeleteTally.ofJson? = some t) ∧
    (∀ o : DeleteOutcome, (Json.ofText? o.toJson.write).bind DeleteOutcome.ofJson? = some o) :=
  ⟨fun l => l.readBack.ofText?, fun r => r.readBack.ofText?,
    fun _ hi => (LibraryItem.readBack hi).ofText?, fun _ hc => (Candidate.readBack hc).ofText?,
    fun _ hp => (CandidatePage.readBack hp).ofText?, fun s => s.readBack.ofText?,
    fun _ _ hjobs => (SyncSnapshot.readBack_of_perm hjobs).ofText?,
    fun _ => (SyncSnapshot.readBack_of_perm (.refl _)).ofText?,
    fun p => p.readBack.ofText?, fun e => e.readBack.ofText?, fun r => r.readBack.ofText?,
    fun m => m.readBack.ofText?, fun s => s.readBack.ofText?, fun t => t.readBack.ofText?,
    fun o => o.readBack.ofText?⟩

/-- A page with an item that was added in a leap second and whose strings need escapes, and a
snapshot with its jobs out of order. -/
theorem page_and_snapshot_read_back :
    let added : Instant := ⟨⟨2016, 12, 31, by decide⟩, 23, 59, 60, 120000000, by decide⟩
    let item : LibraryItem := {
      id := -9223372036854775808, serverId := 1, libraryId := "a:b",
      title := "\"\\\n\x01é😀", year := some (-44), sizeBytes := some 18446744073709551615,
      addedAt := some added, tmdbId := none, tvdbId := some 0, imdbId := some "" }
    let candidate : Candidate := ⟨7, 2, item, "not watched"⟩
    let page : CandidatePage := ⟨[candidate], 1, 2⟩
    let job (phase : SyncPhase) : SyncJobState := ⟨phase, some 1, none, none⟩
    let jobs := [("2:b", job .items), ("1:a", job .error)]
    item.InUnsignedYear ∧ jobs.Perm (SortedMap.ofList jobs).entries ∧
      (Json.ofText? item.toJson.write).bind LibraryItem.ofJson? = some item ∧
      (Json.ofText? candidate.toJson.write).bind Candidate.ofJson? = some candidate ∧
      (Json.ofText? page.toJson.write).bind CandidatePage.ofJson? = some page ∧
      (Json.ofText? (Json.object (jobs.map (fun e => (e.1, e.2.toJson)))).write).bind
        SyncSnapshot.ofJson? = some ⟨SortedMap.ofList jobs⟩ := by
  intro added item candidate page job jobs
  obtain ⟨-, -, hitem, hcandidate, hpage, -, hsnapshot, -⟩ := records_read_back
  have hyear : item.InUnsignedYear := by
    rintro t ⟨⟩
    exact ⟨by decide, by decide⟩
  have hjobs : jobs.Perm (SortedMap.ofList jobs).entries :=
    (SortedMap.perm_ofList (by decide)).symm
  refine ⟨hyear, hjobs, hitem item hyear, hcandidate candidate hyear,
    hpage page (fun c hc => ?_), hsnapshot ⟨SortedMap.ofList jobs⟩ jobs hjobs⟩
  obtain rfl := List.mem_singleton.mp hc
  exact hyear

end MediaMonitor
