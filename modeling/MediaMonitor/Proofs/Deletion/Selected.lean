import MediaMonitor.Proofs.Candidate.Browser
import MediaMonitor.Proofs.Deletion.RunEvents
import MediaMonitor.Proofs.Deletion.SoleRun
import MediaMonitor.Service

/-!
# Deleting what is selected

A service deletes the selection of a browser by one run of its coordinator, which others may cancel
or supersede in the meantime, and fetches the page of the browser again when anything may have
changed.  What the browser shows and what is selected changes in this case only, and what the run
came to is returned, whether or not the page could be fetched (`ServiceCourse.delete_selected`).
-/

namespace MediaMonitor

theorem Selection.eraseDups_ids (s : Selection) : s.ids.eraseDups = s.ids :=
  eraseDups_of_nodup (s.pairwise_ids.imp Std.ne_of_lt)

/-! ### The requests and the result of a run -/

namespace Course

/-- The requests that a run made. -/
def requestsOf (h : Course) (n : Nat) : List BackendCall :=
  (h.submitted.filter (·.1 = n)).map (fun q => .bulkDelete q.2.1 q.2.2)

/-- What a run returned, if it has. -/
def returned? (h : Course) (n : Nat) : Option RunResult :=
  (h.ended.find? (·.1 = n)).bind (fun x =>
    match x.2 with
    | .returned r => some r
    | .dropped => none)

section
variable {h : Course} {n : Nat} {r : RunResult}

/-- A run returns one result. -/
theorem Accounted.returned?_eq (ha : h.Accounted) :
    h.returned? n = some r ↔ (n, .returned r) ∈ h.ended := by
  constructor
  · intro hr
    obtain ⟨⟨m, e⟩, hfind, hsome⟩ := Option.bind_eq_some_iff.mp hr
    obtain rfl : m = n := by simpa using List.find?_some hfind
    cases e with
    | returned r' => cases hsome; exact List.mem_of_find?_eq_some hfind
    | dropped => cases hsome
  · intro he
    rw [returned?, ← List.head?_filter, ha.ended_filter he]
    rfl

theorem accounted_extend (earlier actions : List CoordinatorAction) :
    ((of earlier).extend actions).Accounted := by
  rw [← of_append]; exact accounted _

/-- A run that ended got started. -/
theorem Accounted.exists_started (ha : h.Accounted) {e : RunEnd} (he : (n, e) ∈ h.ended) :
    ∃ s ∈ h.started, s.number = n := by
  obtain ⟨hpos, hle, -⟩ := (ha.gone n).mp (List.mem_map_of_mem he)
  have hnumber : n ∈ h.started.map (·.number) := by
    rw [ha.numbers, List.mem_range'_1]
    omega
  exact List.mem_map.mp hnumber

/-- The one error that a run returns is that it was cancelled. -/
theorem eq_cancelled_of_returned (earlier actions : List CoordinatorAction) {e : MaintenanceError}
    (he : (n, .returned (.error e)) ∈ ((of earlier).extend actions).ended) : e = .cancelled := by
  obtain ⟨s, hs, rfl⟩ := (accounted_extend earlier actions).exists_started he
  rw [← of_append] at hs he
  exact ((narrated (earlier ++ actions)).gone s hs _ he).error e rfl

/-- A run makes one request, of the distinct ids. -/
theorem requestsOf_start (earlier meanwhile : List CoordinatorAction) (ruleId : Int64)
    {ids : List Int64} (hne : ids ≠ []) :
    ((of earlier).extend (.start ruleId ids :: meanwhile)).requestsOf
        ((of earlier).state.generation + 1) = [.bulkDelete ruleId ids.eraseDups] := by
  have hsub := (free_of_start (coherent earlier) ruleId hne).1
  have hmem : ((of earlier).state.generation + 1, ruleId, ids.eraseDups) ∈
      ((of earlier).extend (.start ruleId ids :: meanwhile)).submitted :=
    (mem_extend _ meanwhile).1 _ hsub
  rw [requestsOf, (accounted_extend earlier _).submitted_filter hmem]
  rfl

end

end Course

/-! ### What a deletion leaves of a browser -/

namespace Service

section
variable {b : Browser}

theorem submission_of_empty (h : b.selection.isEmpty = true) :
    submission b = .error (.validation "No candidates selected") := if_pos h

theorem submission_of_selected (h : ¬ b.selection.isEmpty = true) :
    submission b = .ok (b.ruleId, b.selection.ids) := if_neg h

variable {σ : Type} (answer : σ → (c : BackendCall) → c.Outcome × σ)

/-- Where anything may have changed, nothing is selected any more and the page is fetched again. -/
theorem run_afterDelete_changed {o : DeleteOutcome} (h : o.needsRefresh = true) (s : σ) :
    (afterDelete b (.ok o)).run answer s =
      ({ result := b.clearSelection.refreshed (answer s b.listing).1, calls := [b.listing] },
        (answer s b.listing).2) := by
  rw [afterDelete]
  dsimp only
  rw [if_pos h, Procedure.run_bind, Browser.run_refresh]
  rfl

/-- Where nothing has changed, the browser stays as it is. -/
theorem run_afterDelete_unchanged {r : RunResult} (h : ∀ o, r = .ok o → o.needsRefresh = false)
    (s : σ) : (afterDelete b r).run answer s = ({ result := b }, s) := by
  cases r with
  | error e => rfl
  | ok o => rw [afterDelete]; dsimp only; rw [if_neg (by simp [h o rfl])]; rfl

end

end Service

/-! ### Deletions among others -/

/-- A service at work for a browser: the course of its coordinator, its backend, and the calls that
were made for the browser, the oldest first. -/
structure ServiceCourse (σ : Type) where
  deletions : Course
  backend : σ
  calls : List BackendCall := []

namespace ServiceCourse

variable {σ : Type} (answer : σ → (c : BackendCall) → c.Outcome × σ)

/-- Runs a deletion while actions come about: those of the run itself, and those of others, who may
cancel or supersede it.  There is no result as long as the run has not returned. -/
def runDeletion (meanwhile : List CoordinatorAction) (ruleId : Int64) (ids : List Int64) :
    StateT (ServiceCourse σ) Option RunResult := fun h =>
  let start := CoordinatorAction.start ruleId ids
  let effect := h.deletions.state.step start
  match effect.requested, effect.rejected with
  | some (n, _, _), _ =>
      let deletions := h.deletions.extend (start :: meanwhile)
      (deletions.returned? n).map (fun r =>
        (r, { h with deletions := deletions, calls := h.calls ++ deletions.requestsOf n }))
  | none, some e => some (.error e, h)
  | none, none => none

/-- Carries out a procedure. -/
def perform (p : Procedure α) : StateT (ServiceCourse σ) Option α := fun h =>
  let (trace, backend) := p.run answer h.backend
  some (trace.result, { h with backend := backend, calls := h.calls ++ trace.calls })

/-- Deletes what a browser has selected, while other actions come about. -/
def deleteSelected (meanwhile : List CoordinatorAction) (b : Browser) :
    StateT (ServiceCourse σ) Option (RunResult × Browser) :=
  Service.deleteSelected (runDeletion meanwhile) (perform answer) b

/-- What the deletion of a selection that comes to `r` leaves of a browser, and the calls that are
made for it.  The backend is in the state `s` when the deletion is over. -/
structure Left (s : σ) (b : Browser) (r : RunResult) (b' : Browser) (calls : List BackendCall) :
    Prop where
  /-- Anything may have changed. -/
  changed : ∀ o, r = .ok o → o.needsRefresh = true →
    calls = [.bulkDelete b.ruleId b.selection.ids, .listCandidates b.ruleId b.query] ∧
      b'.ruleId = b.ruleId ∧ b'.query = b.query ∧ b'.selection = .empty ∧
      (∀ p, (answer s (.listCandidates b.ruleId b.query)).1 = .ok p → b'.page = some p) ∧
      ∀ e, (answer s (.listCandidates b.ruleId b.query)).1 = .error e → b'.page = b.page
  /-- Nothing has changed. -/
  unchanged : (∀ o, r = .ok o → o.needsRefresh = false) →
    calls = [.bulkDelete b.ruleId b.selection.ids] ∧ b' = b
  error : ∀ e, r = .error e → e = .cancelled

section
variable {s : σ} {b : Browser}

/-- A run that gets started makes its request. -/
theorem runDeletion_eq (earlier meanwhile : List CoordinatorAction) (ruleId : Int64)
    {ids : List Int64} (hne : ids ≠ []) :
    let deletions := (Course.of earlier).extend (.start ruleId ids :: meanwhile)
    runDeletion meanwhile ruleId ids { deletions := .of earlier, backend := s } =
      (deletions.returned? ((Course.of earlier).state.generation + 1)).map (fun r =>
        (r, { deletions := deletions, backend := s
              calls := [.bulkDelete ruleId ids.eraseDups] })) := by
  intro deletions
  have hd : Coordinator.distinct ids ≠ [] := mt Coordinator.distinct_eq_nil.mp hne
  have hstart : (Course.of earlier).state.step (.start ruleId ids) = _ :=
    (Course.coherent earlier).start_eq ruleId hd
  have hrequests := Course.requestsOf_start earlier meanwhile ruleId hne
  simp only [runDeletion, hstart]
  rw [hrequests]
  rfl

/-- Where something is selected, the deletion is a run and what comes after it. -/
theorem deleteSelected_eq (earlier meanwhile : List CoordinatorAction)
    (hb : ¬ b.selection.isEmpty = true) :
    let deletions := (Course.of earlier).extend (.start b.ruleId b.selection.ids :: meanwhile)
    deleteSelected answer meanwhile b { deletions := .of earlier, backend := s } =
      (deletions.returned? ((Course.of earlier).state.generation + 1)).map (fun r =>
        let (after, backend) := (Service.afterDelete b r).run answer s
        ((r, after.result),
          { deletions := deletions, backend := backend
            calls := .bulkDelete b.ruleId b.selection.ids :: after.calls })) := by
  intro deletions
  have hrun := runDeletion_eq (s := s) earlier meanwhile b.ruleId
    (mt Selection.isEmpty_iff.mpr hb)
  rw [Selection.eraseDups_ids] at hrun
  rw [deleteSelected, Service.deleteSelected, Service.submission_of_selected hb]
  show (runDeletion meanwhile b.ruleId b.selection.ids _).bind _ = _
  rw [hrun]
  cases deletions.returned? ((Course.of earlier).state.generation + 1) with
  | none => rfl
  | some r => rfl

/-- What comes after a run changes the browser in one case only. -/
theorem left_afterDelete {r : RunResult} (herror : ∀ e, r = .error e → e = .cancelled) :
    let after := (Service.afterDelete b r).run answer s
    Left answer s b r after.1.result (.bulkDelete b.ruleId b.selection.ids :: after.1.calls) := by
  intro after
  refine ⟨?_, fun hr => ?_, herror⟩
  · rintro o rfl hrefresh
    have hafter : after = _ := Service.run_afterDelete_changed answer hrefresh s
    rw [hafter]
    cases hreply : (answer s (.listCandidates b.ruleId b.query)).1 with
    | ok p =>
        have hlisting : (answer s b.listing).1 = .ok p := hreply
        rw [hlisting]
        exact ⟨rfl, rfl, rfl, rfl, fun p hp => by cases hp; rfl, nofun⟩
    | error e =>
        have hlisting : (answer s b.listing).1 = .error e := hreply
        rw [hlisting]
        exact ⟨rfl, rfl, rfl, rfl, nofun, fun _ _ => rfl⟩
  · have hafter : after = _ := Service.run_afterDelete_unchanged answer hr s
    rw [hafter]
    exact ⟨rfl, rfl⟩

end

/-- **The deletion of what a browser has selected** is rejected when nothing is.  Otherwise one
request is made, for the rule of the browser and its selected ids, which ascend and are in view, and
what the run comes to is returned.  When anything may have changed, nothing is selected any more and
the page is fetched once again, the same one; a page that cannot be fetched is kept as it was.  In
any other case, a run that was cancelled or superseded among them, the browser stays as it is. -/
theorem delete_selected (s₀ s : σ) (ruleId : Int64) (perPage : UInt32)
    (browsing : List BrowserAction) (earlier meanwhile : List CoordinatorAction) :
    let b := (BrowserCourse.of answer s₀ ruleId perPage browsing).browser
    let h : ServiceCourse σ := { deletions := .of earlier, backend := s }
    let call := deleteSelected answer meanwhile b h
    let n := h.deletions.state.generation + 1
    let deletions := h.deletions.extend (.start b.ruleId b.selection.ids :: meanwhile)
    (b.selection.isEmpty = true →
      call = some ((.error (.validation "No candidates selected"), b), h)) ∧
    (¬ b.selection.isEmpty = true →
      b.selection.ids.Pairwise (· < ·) ∧
      (∀ id ∈ b.selection.ids, id ∈ b.candidates.map (·.id)) ∧
      deletions.requestsOf n = [.bulkDelete b.ruleId b.selection.ids] ∧
      (call = none ↔ ∀ r, (n, .returned r) ∉ deletions.ended) ∧
      ∀ r, (n, .returned r) ∈ deletions.ended →
        ∃ b' h', call = some ((r, b'), h') ∧ h'.deletions = deletions ∧
          Left answer s b r b' h'.calls) := by
  intro b h call n deletions
  have hc := BrowserCourse.current answer s₀ ruleId perPage browsing
  refine ⟨fun hb => ?_, fun hb => ?_⟩
  · show deleteSelected answer meanwhile b h = _
    rw [deleteSelected, Service.deleteSelected, Service.submission_of_empty hb]
    rfl
  · have hrequests := Course.requestsOf_start earlier meanwhile b.ruleId
      (mt Selection.isEmpty_iff.mpr hb)
    rw [Selection.eraseDups_ids] at hrequests
    -- the call is over when the run is, with its result
    have hreturned (r : RunResult) : deletions.returned? n = some r ↔
        (n, .returned r) ∈ deletions.ended :=
      (Course.accounted_extend earlier _).returned?_eq
    have hcall : call = (deletions.returned? n).map _ :=
      deleteSelected_eq answer earlier meanwhile hb
    refine ⟨b.selection.pairwise_ids, fun id hid => hc.sound.selected id (Selection.mem_ids.mp hid),
      hrequests, ?_, fun r hr => ?_⟩
    · rw [hcall, Option.map_eq_none_iff, Option.eq_none_iff_forall_ne_some]
      exact forall_congr' fun r => not_congr (hreturned r)
    · rw [hcall, (hreturned r).mpr hr]
      refine ⟨_, _, rfl, rfl, left_afterDelete answer fun e he => ?_⟩
      subst he
      exact Course.eq_cancelled_of_returned earlier _ hr

/-- Two candidates are selected and deleted by a run that supersedes another one; then the backend
fails to give the page again. -/
theorem delete_selected_without_page :
    let candidate (id : Int64) : Candidate := { (default : Candidate) with id := id }
    let page : CandidatePage := ⟨[candidate 9, candidate 7], 2, 0⟩
    let answer (s : Nat) (c : BackendCall) : c.Outcome × Nat :=
      (match c with
        | .listCandidates _ _ => if s = 0 then .ok page else .error .cancelled
        | _ => .error .cancelled, s + 1)
    let b := (BrowserCourse.of answer 0 3 25 [.refresh, .selectPage]).browser
    let body := "event: complete\ndata: \x7b\"deleted\":2,\"failed\":0,\"skipped\":0\x7d\n\n"
    let meanwhile : List CoordinatorAction :=
      [.reply 2 (.ok ()), .item 2 (.ok (Utf8.ofText body)), .notice 1, .frame 2, .conclude 2]
    let o : DeleteOutcome := .classify (.ofResult 2 { deleted := 2, failed := 0, skipped := 0 })
    ∃ b' h', deleteSelected answer meanwhile b { deletions := .of [.start 9 [1]], backend := 1 } =
        some ((.ok o, b'), h') ∧
      h'.calls = [.bulkDelete 3 [7, 9], .listCandidates 3 (.first 25)] ∧
      b'.selection = .empty ∧ b'.page = some page := by
  intro candidate page answer b body meanwhile o
  have hb : ¬ b.selection.isEmpty = true := by decide +kernel
  have hrefresh : o.needsRefresh = true := by decide +kernel
  have hcalls : b.ruleId = 3 ∧ b.query = .first 25 ∧ b.selection.ids = [7, 9] ∧
      b.page = some page := by decide +kernel
  obtain ⟨hrule, hquery, hids, hpage⟩ := hcalls
  obtain ⟨-, -, -, -, hreturned⟩ :=
    (delete_selected answer 0 1 3 25 [.refresh, .selectPage] [.start 9 [1]] meanwhile).2 hb
  have hend : (2, .returned (.ok o)) ∈ ((Course.of [.start 9 [1]]).extend
      (.start b.ruleId b.selection.ids :: meanwhile)).ended :=
    (Course.accounted_extend _ _).returned?_eq.mp (by decide +kernel)
  obtain ⟨b', h', hcall, -, hleft⟩ := hreturned (.ok o) hend
  obtain ⟨hmade, -, -, hselection, -, hkept⟩ := hleft.changed o rfl hrefresh
  refine ⟨b', h', hcall, ?_, hselection, ?_⟩
  · rw [hmade, hrule, hquery, hids]
  · rw [hkept .cancelled rfl, hpage]

end ServiceCourse

end MediaMonitor
