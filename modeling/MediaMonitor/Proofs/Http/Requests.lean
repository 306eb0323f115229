import Mathlib.Data.Option.Basic
import MediaMonitor.Http.Backend
import MediaMonitor.Proofs.Json.Legible

/-!
# The requests of calls

A call that changes something is carried out in one attempt, or streamed; all others are plain
queries (`HttpBackend.carriedOnce_request`).  Two calls that change something never make the same
request (`HttpBackend.request_injective`): what they are about stands in the path or in the body,
and is read from it again.
-/

namespace MediaMonitor

/-- The call changes something in the backend. -/
def BackendCall.isChange : BackendCall → Bool
  | .startSync _ | .bulkDelete _ _ | .deleteLibraryItem _ _ => true
  | .syncStatus | .listCandidates _ _ | .crossServerMatches _ => false

namespace Http.Sent

/-- The request changes something. -/
def isChange (s : Sent) : Bool := s.request.method ≠ .get

/-- Queries, and only they, are executed plainly; a change is given one attempt, or streamed. -/
def CarriedOnce (s : Sent) : Prop :=
  match s.carriage with
  | .execute => s.request.method = .get
  | .retry attempts => attempts = 1 ∧ (s.request.method = .post ∨ s.request.method = .delete)
  | .stream => s.request.method = .post

end Http.Sent

namespace HttpBackend

open Http

variable (b : HttpBackend) {c d : BackendCall}

/-! ### What a request is made of -/

theorem method_base (method : Method) (path : String) : (b.base method path).method = method := by
  rw [base]
  cases b.apiKey <;> rfl

theorem url_base (method : Method) (path : String) :
    (b.base method path).url = b.baseUrl ++ path := by
  rw [base]
  cases b.apiKey <;> rfl

/-- What is sent to start a sync. -/
def startBody (key : SyncKey) : Json :=
  .object [("server_id", Json.ofInt64 key.serverId), ("library_id", .string key.libraryId)]

/-- What is sent to delete a batch. -/
def deleteBody (ids : List Int64) : Json :=
  .object [("candidate_ids", Json.ofList Json.ofInt64 ids)]

/-- The path of the deletion of an item, which may be checked against another one. -/
def deletePath (id : Int64) : Option Int64 → String
  | none => itemPath id
  | some source => itemPath id ++ "?source_item_id=" ++ idText source

/-- The path of a call. -/
def path : BackendCall → String
  | .startSync _ => "/api/sync/libraries"
  | .syncStatus => "/api/sync/status"
  | .listCandidates ruleId query =>
      "/api/rules/" ++ idText ruleId ++ "/candidates?" ++ query.queryString
  | .bulkDelete ruleId _ => "/api/rules/" ++ idText ruleId ++ "/candidates/delete"
  | .crossServerMatches itemId => itemPath itemId ++ "/matches"
  | .deleteLibraryItem itemId source => deletePath itemId source

/-- Every address is that of the backend, directly followed by a path. -/
theorem url_request (c : BackendCall) : (b.request c).request.url = b.baseUrl ++ path c := by
  cases c with
  | deleteLibraryItem id source => cases source <;> exact b.url_base ..
  | startSync | syncStatus | listCandidates | bulkDelete | crossServerMatches => exact b.url_base ..

/-- Every path is one of the interface. -/
theorem prefix_path (c : BackendCall) : "/api/".toList <+: (path c).toList := by
  have happend {s t : String} (h : "/api/".toList <+: s.toList) :
      "/api/".toList <+: (s ++ t).toList := by
    rw [String.toList_append]
    exact h.trans (List.prefix_append _ _)
  have hrules : "/api/".toList <+: "/api/rules/".toList := by decide
  have hitem (id : Int64) : "/api/".toList <+: (itemPath id).toList := happend (by decide)
  cases c with
  | startSync key => exact (by decide : "/api/".toList <+: "/api/sync/libraries".toList)
  | syncStatus => decide
  | listCandidates ruleId query => exact happend (happend (happend hrules))
  | bulkDelete ruleId ids => exact happend (happend hrules)
  | crossServerMatches itemId => exact happend (hitem itemId)
  | deleteLibraryItem itemId source =>
      cases source with
      | none => exact hitem itemId
      | some source => exact happend (happend (hitem itemId))

/-- How a request is carried out, its method, its address, and the value in its body. -/
structure Carries (s : Sent) (carriage : Carriage) (method : Method) (url : String)
    (body : Option Json) : Prop where
  carriage : s.carriage = carriage
  method : s.request.method = method
  url : s.request.url = url
  body : s.request.body.map Json.ofOctets? = body.map some

theorem legible_startBody (key : SyncKey) : (startBody key).Legible :=
  Json.legible_object (by simp [Json.legible_string, Json.legible_integer, Json.ofInt64])

theorem legible_deleteBody (ids : List Int64) : (deleteBody ids).Legible :=
  Json.legible_object (by
    simp only [List.forall_mem_singleton]
    exact Json.legible_array (by simp [Json.legible_integer, Json.ofInt64]))

theorem carries_startSync (key : SyncKey) :
    Carries (b.request (.startSync key)) (.retry 1) .post (b.baseUrl ++ "/api/sync/libraries")
      (some (startBody key)) where
  carriage := rfl
  method := b.method_base ..
  url := b.url_base ..
  body := congrArg some (Json.ofOctets?_write (legible_startBody key))

theorem carries_bulkDelete (ruleId : Int64) (ids : List Int64) :
    Carries (b.request (.bulkDelete ruleId ids)) .stream .post
      (b.baseUrl ++ ("/api/rules/" ++ idText ruleId ++ "/candidates/delete"))
      (some (deleteBody ids)) where
  carriage := rfl
  method := b.method_base ..
  url := b.url_base ..
  body := congrArg some (Json.ofOctets?_write (legible_deleteBody ids))

theorem carries_deleteLibraryItem (id : Int64) (source : Option Int64) :
    Carries (b.request (.deleteLibraryItem id source)) (.retry 1) .delete
      (b.baseUrl ++ deletePath id source) none := by
  have hbody (path : String) : (b.base .delete path).body = none := by
    rw [base]
    cases b.apiKey <;> rfl
  cases source with
  | none => exact ⟨rfl, b.method_base .., b.url_base .., congrArg _ (hbody _)⟩
  | some source => exact ⟨rfl, b.method_base .., b.url_base .., congrArg _ (hbody _)⟩

/-- **Every request is carried out once**, unless it is a plain query. -/
theorem carriedOnce_request (c : BackendCall) : (b.request c).CarriedOnce := by
  cases c with
  | startSync key => exact ⟨rfl, .inl (b.carries_startSync key).method⟩
  | bulkDelete ruleId ids => exact (b.carries_bulkDelete ruleId ids).method
  | deleteLibraryItem id source =>
      have h := b.carries_deleteLibraryItem id source
      rw [Sent.CarriedOnce, h.carriage]
      exact ⟨rfl, .inr h.method⟩
  | syncStatus | listCandidates | crossServerMatches => exact b.method_base ..

/-- The calls that change something make the requests that do. -/
theorem isChange_request (c : BackendCall) : (b.request c).isChange = c.isChange := by
  cases c with
  | startSync key => rw [Sent.isChange, (b.carries_startSync key).method]; rfl
  | bulkDelete ruleId ids => rw [Sent.isChange, (b.carries_bulkDelete ruleId ids).method]; rfl
  | deleteLibraryItem id source =>
      rw [Sent.isChange, (b.carries_deleteLibraryItem id source).method]; rfl
  | syncStatus | listCandidates | crossServerMatches =>
      have hget (path : String) : (b.query path).request.method = .get := b.method_base ..
      exact decide_eq_false (not_not_intro (hget _))

/-! ### No two changes are one request -/

section
variable {s : Sent} {carriage carriage' : Carriage} {method method' : Method} {url url' : String}
  {body body' : Option Json}

/-- A request carries one thing. -/
theorem Carries.unique (h : Carries s carriage method url body)
    (h' : Carries s carriage' method' url' body') :
    carriage = carriage' ∧ method = method' ∧ url = url' ∧ body = body' :=
  ⟨h.carriage.symm.trans h'.carriage, h.method.symm.trans h'.method, h.url.symm.trans h'.url,
    Option.map_injective (Option.some_injective _) (h.body.symm.trans h'.body)⟩

end

/-- What stands behind the number of an item in the path of its deletion. -/
def deleteQuery : Option Int64 → List Char
  | none => []
  | some source => '?' :: ("source_item_id=".toList ++ Text.intChars source.toInt)

theorem toList_idText (id : Int64) : (idText id).toList = Text.intChars id.toInt :=
  String.toList_ofList

theorem toList_deletePath (id : Int64) (source : Option Int64) :
    (deletePath id source).toList =
      "/api/library/items/".toList ++ (Text.intChars id.toInt ++ deleteQuery source) := by
  cases source with
  | none =>
      show ("/api/library/items/" ++ idText id).toList = _
      rw [String.toList_append, toList_idText, deleteQuery, List.append_nil]
  | some s =>
      have hmark : "?source_item_id=".toList = '?' :: "source_item_id=".toList := by decide
      show ("/api/library/items/" ++ idText id ++ "?source_item_id=" ++ idText s).toList = _
      rw [String.toList_append, String.toList_append, String.toList_append, toList_idText,
        toList_idText, hmark, deleteQuery, List.append_assoc, List.append_assoc]
      rfl

/-- The number ends where the mark stands. -/
theorem takeWhile_deleteQuery (i : Int) (source : Option Int64) :
    (Text.intChars i ++ deleteQuery source).takeWhile (· ≠ '?') = Text.intChars i := by
  have hdigits : ∀ c ∈ Text.intChars i, decide (c ≠ '?') = true := fun c hc => by
    rcases Text.of_mem_intChars hc with rfl | hc
    · rfl
    · exact decide_eq_true (by rintro rfl; cases hc)
  rw [List.takeWhile_append_of_pos hdigits]
  cases source <;> simp [deleteQuery]

theorem deleteQuery_injective {source source' : Option Int64}
    (h : deleteQuery source = deleteQuery source') : source = source' := by
  cases source with
  | none =>
      cases source' with
      | none => rfl
      | some t => cases h
  | some s =>
      cases source' with
      | none => cases h
      | some t =>
          have htail := List.append_cancel_left (List.cons.inj h).2
          rw [Int64.toInt_inj.mp (Text.intChars_injective htail)]

/-- The path of a deletion tells the item and what it is checked against. -/
theorem deletePath_injective {i j : Int64} {source source' : Option Int64}
    (h : deletePath i source = deletePath j source') : i = j ∧ source = source' := by
  have hlist := congrArg String.toList h
  rw [toList_deletePath, toList_deletePath, List.append_cancel_left_eq] at hlist
  have hnumber := congrArg (List.takeWhile (· ≠ '?')) hlist
  rw [takeWhile_deleteQuery, takeWhile_deleteQuery] at hnumber
  obtain rfl := Int64.toInt_inj.mp (Text.intChars_injective hnumber)
  exact ⟨rfl, deleteQuery_injective (List.append_cancel_left hlist)⟩

theorem idText_injective {i j : Int64} (h : idText i = idText j) : i = j :=
  Int64.toInt_inj.mp (Text.intChars_injective (String.ofList_injective h))

theorem ofInt64_injective {i j : Int64} (h : Json.ofInt64 i = Json.ofInt64 j) : i = j :=
  Int64.toInt_inj.mp (Json.integer.inj h)

theorem startBody_injective {k k' : SyncKey} (h : startBody k = startBody k') : k = k' := by
  cases k
  cases k'
  simp only [startBody, Json.object.injEq, List.cons.injEq, Prod.mk.injEq, Json.string.injEq,
    and_true, true_and] at h
  obtain ⟨hserver, rfl⟩ := h
  rw [ofInt64_injective hserver]

theorem deleteBody_injective {ids ids' : List Int64} (h : deleteBody ids = deleteBody ids') :
    ids = ids' := by
  simp only [deleteBody, Json.ofList, Json.object.injEq, List.cons.injEq, Prod.mk.injEq,
    Json.array.injEq, and_true, true_and] at h
  exact List.map_injective_iff.mpr (fun _ _ => ofInt64_injective) h

/-- **No two calls that change something make the same request.** -/
theorem request_injective (hc : c.isChange = true) (hd : d.isChange = true)
    (h : b.request c = b.request d) : c = d := by
  match c, d with
  | .startSync key, .startSync key' =>
      obtain ⟨-, -, -, hbody⟩ := (h ▸ b.carries_startSync key).unique (b.carries_startSync key')
      rw [startBody_injective (Option.some.inj hbody)]
  | .bulkDelete ruleId ids, .bulkDelete ruleId' ids' =>
      obtain ⟨-, -, hurl, hbody⟩ :=
        (h ▸ b.carries_bulkDelete ruleId ids).unique (b.carries_bulkDelete ruleId' ids')
      rw [String.append_right_inj, String.append_left_inj, String.append_right_inj] at hurl
      rw [idText_injective hurl, deleteBody_injective (Option.some.inj hbody)]
  | .deleteLibraryItem id source, .deleteLibraryItem id' source' =>
      obtain ⟨-, -, hurl, -⟩ := (h ▸ b.carries_deleteLibraryItem id source).unique
        (b.carries_deleteLibraryItem id' source')
      rw [String.append_right_inj] at hurl
      obtain ⟨rfl, rfl⟩ := deletePath_injective hurl
      rfl
  -- calls of different kinds differ in how they are carried out, or in the method
  | .startSync key, .bulkDelete ruleId ids =>
      cases ((h ▸ b.carries_startSync key).unique (b.carries_bulkDelete ruleId ids)).1
  | .startSync key, .deleteLibraryItem id source =>
      cases ((h ▸ b.carries_startSync key).unique (b.carries_deleteLibraryItem id source)).2.1
  | .bulkDelete ruleId ids, .startSync key =>
      cases ((h ▸ b.carries_bulkDelete ruleId ids).unique (b.carries_startSync key)).1
  | .bulkDelete ruleId ids, .deleteLibraryItem id source =>
      cases ((h ▸ b.carries_bulkDelete ruleId ids).unique (b.carries_deleteLibraryItem id source)).1
  | .deleteLibraryItem id source, .startSync key =>
      cases ((h ▸ b.carries_deleteLibraryItem id source).unique (b.carries_startSync key)).2.1
  | .deleteLibraryItem id source, .bulkDelete ruleId ids =>
      cases ((h ▸ b.carries_deleteLibraryItem id source).unique (b.carries_bulkDelete ruleId ids)).1

end HttpBackend

end MediaMonitor
