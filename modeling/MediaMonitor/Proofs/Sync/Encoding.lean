import MediaMonitor.Proofs.SortedMap
import MediaMonitor.Proofs.Text.Integer
import MediaMonitor.Sync.Status

/-!
# Encoded sync keys

A key is read from its encoded form and from no other text (`SyncKey.parse_eq_ok_iff`).  The encoded
forms are described by themselves, as the decimal form of a number of 64 bits, a colon and any text
(`SyncKey.IsEncoded`), and are just the texts that can be read (`SyncKey.encode_parse_inverse`).  So
an entry of a snapshot is the job of the one key that its name encodes, or of no key at all.
-/

namespace MediaMonitor

namespace SyncKey

variable {text : String} {k k' : SyncKey}

/-- The decimal form of a number of 64 bits, a colon, and any text. -/
def IsEncoded (text : String) : Prop :=
  ∃ server i library, Text.IsDecimal server i ∧
    Int64.minValue.toInt ≤ i ∧ i ≤ Int64.maxValue.toInt ∧
    text = String.ofList (server ++ ':' :: library)

/-! ### The number of a server -/

theorem serverId?_eq_some_iff {cs : List Char} {id : Int64} :
    serverId? cs = some id ↔ cs = Text.intChars id.toInt := by
  rw [serverId?, Option.bind_eq_some_iff]
  constructor
  · rintro ⟨i, hread, hbounded⟩
    rw [Text.int?_eq_some_iff, Text.isDecimal_iff] at hread
    split at hbounded
    case isTrue hbounds =>
      cases hbounded
      rw [hread, Int64.toInt_ofInt_of_le hbounds.1 (Int.lt_of_le_sub_one hbounds.2)]
    case isFalse => cases hbounded
  · rintro rfl
    exact ⟨id.toInt, Text.int?_intChars _,
      by rw [if_pos ⟨id.minValue_le_toInt, id.toInt_le⟩, Int64.ofInt_toInt]⟩

theorem colon_not_mem_intChars (i : Int) : ':' ∉ Text.intChars i := by
  intro hmem
  rcases Text.of_mem_intChars hmem with h | h <;> cases h

/-! ### Keys -/

theorem toList_encode (k : SyncKey) :
    k.encode.toList = Text.intChars k.serverId.toInt ++ ':' :: k.libraryId.toList :=
  String.toList_ofList

theorem ofText?_encode (k : SyncKey) : ofText? k.encode = some k := by
  rw [ofText?, toList_encode, Text.splitFirst_append (colon_not_mem_intChars k.serverId.toInt)]
  simp [serverId?_eq_some_iff.mpr rfl]

/-- What is read as a key is the encoded form of it. -/
theorem encode_of_ofText? (h : ofText? text = some k) : k.encode = text := by
  simp only [ofText?, Option.bind_eq_bind, Option.bind_eq_some_iff, Option.pure_def,
    Option.some.injEq] at h
  obtain ⟨⟨server, library⟩, hsplit, id, hserver, rfl⟩ := h
  rw [serverId?_eq_some_iff] at hserver
  rw [encode, ← hserver, String.toList_ofList, ← (Text.eq_append_of_splitFirst hsplit).1,
    String.ofList_toList]

/-- **A text is read as a key if and only if it is the encoded form of it.** -/
theorem parse_eq_ok_iff : parse text = .ok k ↔ k.encode = text := by
  constructor
  · intro h
    rw [parse] at h
    split at h
    case h_1 hread => cases h; exact encode_of_ofText? hread
    case h_2 => cases h
  · rintro rfl
    rw [parse, ofText?_encode]

theorem encode_injective (h : k.encode = k'.encode) : k = k' := by
  have hread := ofText?_encode k
  rw [h, ofText?_encode] at hread
  exact (Option.some.inj hread).symm

theorem exists_encode_eq_iff : (∃ k : SyncKey, k.encode = text) ↔ IsEncoded text := by
  constructor
  · rintro ⟨k, rfl⟩
    exact ⟨_, _, _, Text.isDecimal_iff.mpr rfl, k.serverId.minValue_le_toInt, k.serverId.toInt_le,
      rfl⟩
  · rintro ⟨server, i, library, hserver, hmin, hmax, rfl⟩
    rw [Text.isDecimal_iff] at hserver
    refine ⟨⟨Int64.ofInt i, String.ofList library⟩, ?_⟩
    rw [encode, Int64.toInt_ofInt_of_le hmin (Int.lt_of_le_sub_one hmax), ← hserver,
      String.toList_ofList]

theorem parse_of_not_isEncoded (h : ¬ IsEncoded text) :
    parse text = .error (.invalidSyncKey text) := by
  cases hread : ofText? text with
  | none => rw [parse, hread]
  | some k => exact absurd (exists_encode_eq_iff.mp ⟨k, encode_of_ofText? hread⟩) h

end SyncKey

/-! ### The jobs of a snapshot -/

namespace SyncSnapshot

/-- The job of a key is the one of this entry: it is what the entry holds, and the key has none when
the entry is taken away. -/
structure Finds (s : SyncSnapshot) (key : SyncKey) (e : String × SyncJobState) : Prop where
  mem : e ∈ s.jobs.entries
  found : s.get? key = some e.2
  alone : (SyncSnapshot.mk (s.jobs.erase e.1)).get? key = none

theorem finds_iff {s : SyncSnapshot} {key : SyncKey} {e : String × SyncJobState} :
    s.Finds key e ↔ e ∈ s.jobs.entries ∧ key.encode = e.1 := by
  constructor
  · intro h
    refine ⟨h.mem, ?_⟩
    by_contra hne
    have halone := h.alone
    rw [get?, SortedMap.find?_erase, if_neg (Ne.symm hne)] at halone
    cases h.found.symm.trans halone
  · rintro ⟨hmem, heq⟩
    refine ⟨hmem, ?_, ?_⟩
    · rw [get?, heq]
      exact SortedMap.mem_entries.mp hmem
    · rw [get?, heq, SortedMap.find?_erase, if_pos rfl]

end SyncSnapshot

namespace SyncKey

/-- **Keys and the texts that can be read as keys are in bijection**: every key is read from its
encoded form; what can be read is the decimal form of a number of 64 bits, a colon and any text, and
is the encoded form of the key it is read as; any other text is refused.  So an entry of a snapshot
is found by the key that its name is read as, and by no other; if its name cannot be read, it is
found by none. -/
theorem encode_parse_inverse :
    (∀ k : SyncKey, parse k.encode = .ok k) ∧
    (∀ text, (∃ k, parse text = .ok k) ↔ IsEncoded text) ∧
    (∀ text k, parse text = .ok k → k.encode = text) ∧
    (∀ text, ¬ IsEncoded text → parse text = .error (.invalidSyncKey text)) ∧
    (∀ (s : SyncSnapshot) (e : String × SyncJobState),
      (∀ k, s.Finds k e ↔ e ∈ s.jobs.entries ∧ parse e.1 = .ok k) ∧
      (∀ k k', s.Finds k e → s.Finds k' e → k = k') ∧
      (¬ IsEncoded e.1 → ∀ k, ¬ s.Finds k e)) := by
  refine ⟨fun k => parse_eq_ok_iff.mpr rfl, fun text => ?_, fun text k => parse_eq_ok_iff.mp,
    fun text => parse_of_not_isEncoded, fun s e => ⟨fun k => ?_, fun k k' hk hk' => ?_,
      fun hname k hk => ?_⟩⟩
  · simp only [parse_eq_ok_iff, exists_encode_eq_iff]
  · rw [SyncSnapshot.finds_iff, parse_eq_ok_iff]
  · have hname := (SyncSnapshot.finds_iff.mp hk).2
    have hname' := (SyncSnapshot.finds_iff.mp hk').2
    exact encode_injective (hname.trans hname'.symm)
  · exact hname (exists_encode_eq_iff.mp ⟨k, (SyncSnapshot.finds_iff.mp hk).2⟩)

/-- A key whose library starts with a colon, on the server with the least number, is read back; of
two entries whose names look alike, one is found by its key alone and the other by no key. -/
theorem inverse_of_lookalikes :
    let least : SyncKey := ⟨Int64.minValue, ":a"⟩
    let movies : SyncKey := ⟨1, "movies"⟩
    let job : SyncJobState := ⟨.items, none, none, none⟩
    let s : SyncSnapshot := ⟨SortedMap.ofList [("1:movies", job), ("01:movies", job)]⟩
    parse "-9223372036854775808::a" = .ok least ∧ least.encode = "-9223372036854775808::a" ∧
      ¬ IsEncoded "01:movies" ∧ parse "01:movies" = .error (.invalidSyncKey "01:movies") ∧
      (∀ k, ¬ s.Finds k ("01:movies", job)) ∧
      s.Finds movies ("1:movies", job) ∧ ∀ k, s.Finds k ("1:movies", job) → k = movies := by
  intro least movies job s
  obtain ⟨hread, hiff, hinverse, hrefused, hentries⟩ := encode_parse_inverse
  have hleast : parse "-9223372036854775808::a" = .ok least := by
    have hencode : least.encode = "-9223372036854775808::a" := by decide
    exact hencode ▸ hread least
  have hzero : ¬ IsEncoded "01:movies" := fun h => by
    obtain ⟨k, hk⟩ := (hiff _).mpr h
    cases hk
  have hmovies : s.Finds movies ("1:movies", job) :=
    ((hentries s ("1:movies", job)).1 movies).mpr ⟨by decide, by decide⟩
  exact ⟨hleast, hinverse _ least hleast, hzero, hrefused _ hzero, (hentries s _).2.2 hzero,
    hmovies, fun k hk => (hentries s _).2.1 k movies hk hmovies⟩

end SyncKey

end MediaMonitor
