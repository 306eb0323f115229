import Mathlib.Data.List.Basic
import Mathlib.Data.List.Perm.Basic
import MediaMonitor.Backend
import MediaMonitor.Proofs.Distinct

/-!
# Runs of a launch

A launch makes one call for each key of its rule.  The calls are under way all at once, and their
replies come in any order (`Launch.run`); the launch goes by what the replies say, and not by their
order (`Launch.run_in_any_order`).
-/

namespace MediaMonitor

namespace Rule

/-- The keys of the libraries of a rule, each once, where it came first. -/
def syncKeys (rule : Rule) : List SyncKey := (rule.libraries.map (·.syncKey)).eraseDups

theorem map_syncKey_distinctLibraries (rule : Rule) :
    rule.distinctLibraries.map (·.syncKey) = rule.syncKeys := by
  rw [distinctLibraries, map_distinctBy_nil, syncKeys]

theorem nodup_syncKeys (rule : Rule) : rule.syncKeys.Nodup := by
  rw [← map_syncKey_distinctLibraries, distinctLibraries]
  exact nodup_map_distinctBy ..

/-- Of the libraries with one key, the first is kept, and gives the name. -/
theorem find?_of_mem_distinctLibraries {rule : Rule} {l : LibraryRef}
    (h : l ∈ rule.distinctLibraries) :
    rule.libraries.find? (·.syncKey = l.syncKey) = some l := by
  rw [distinctLibraries] at h
  exact (find?_of_mem_distinctBy h).2

theorem libraryName_of_mem_distinctLibraries {rule : Rule} {l : LibraryRef}
    (h : l ∈ rule.distinctLibraries) : rule.libraryName l.syncKey = l.libraryName := by
  rw [libraryName, find?_of_mem_distinctLibraries h]

theorem syncKeys_eq_nil {rule : Rule} : rule.syncKeys = [] ↔ rule.libraries = [] := by
  rw [syncKeys]
  cases rule.libraries with
  | nil => exact ⟨fun _ => rfl, fun _ => rfl⟩
  | cons l rest => rw [List.map_cons, List.eraseDups_cons]; exact ⟨nofun, nofun⟩

theorem distinctLibraries_eq_nil {rule : Rule} :
    rule.distinctLibraries = [] ↔ rule.libraries = [] := by
  rw [← syncKeys_eq_nil, ← map_syncKey_distinctLibraries, List.map_eq_nil_iff]

end Rule

/-! ### What a reply says -/

/-- The reply to the request to start a sync. -/
abbrev StartAnswer := Except MaintenanceError StartReply

namespace StartAnswer

/-- The sync got started. -/
def Starts (reply : StartAnswer) : Prop := reply = .ok .started

instance : DecidablePred Starts := fun reply => inferInstanceAs (Decidable (reply = _))

/-- The sync runs already: the backend says so, or the request came to a conflict. -/
def Joins (reply : StartAnswer) : Prop :=
  reply = .ok .alreadyRunning ∨ ∃ reason, reply = .error (.api 409 reason)

theorem ofReply_eq_joined {reply : StartAnswer} :
    StartResult.ofReply reply = .joined ↔ Joins reply := by
  rcases reply with e | reply
  · rw [StartResult.ofReply, Joins]
    cases e <;> simp [MaintenanceError.isConflict]
  · cases reply <;> simp [StartResult.ofReply, Joins]

instance : DecidablePred Joins := fun _ => decidable_of_iff _ ofReply_eq_joined

/-- The error for which the sync could not be started. -/
def failure? : StartAnswer → Option MaintenanceError
  | .ok _ => none
  | .error e => if Joins (.error e) then none else some e

/-- A reply says one of three things. -/
theorem trichotomy (reply : StartAnswer) :
    (Starts reply ∧ ¬ Joins reply ∧ failure? reply = none ∧
      StartResult.ofReply reply = .started) ∨
    (¬ Starts reply ∧ Joins reply ∧ failure? reply = none ∧
      StartResult.ofReply reply = .joined) ∨
    ∃ e, ¬ Starts reply ∧ ¬ Joins reply ∧ failure? reply = some e ∧
      StartResult.ofReply reply = .failed e.message := by
  rcases reply with e | reply | reply
  · right
    by_cases hjoins : Joins (.error e)
    · exact .inl ⟨nofun, hjoins, if_pos hjoins, ofReply_eq_joined.mpr hjoins⟩
    · refine .inr ⟨e, nofun, hjoins, if_neg hjoins, ?_⟩
      rw [← ofReply_eq_joined, StartResult.ofReply] at hjoins
      rw [StartResult.ofReply]
      split at hjoins
      case isTrue => exact absurd rfl hjoins
      case isFalse hconflict => rw [if_neg hconflict]
  · exact .inl ⟨rfl, by simp [Joins], rfl, rfl⟩
  · exact .inr (.inl ⟨by simp [Starts], .inl rfl, rfl, rfl⟩)

end StartAnswer

namespace Launch

open StartAnswer (Starts Joins failure?)

/-! ### The report on given replies -/

/-- The report on replies to the calls for some keys of a rule. -/
def reportOn (rule : Rule) (reply : SyncKey → StartAnswer) (keys : List SyncKey) :
    LaunchReport where
  ruleId := rule.id
  started := keys.filter (fun k => Starts (reply k))
  joined := keys.filter (fun k => Joins (reply k))
  failures := keys.filterMap (fun k =>
    (failure? (reply k)).map (fun e => ⟨k, rule.libraryName k, e.message⟩))

variable {rule : Rule} {reply : SyncKey → StartAnswer}

theorem filter_map_syncKey (libraries : List LibraryRef) (p : SyncKey → Prop) [DecidablePred p] :
    (libraries.map (·.syncKey)).filter (fun k => p k) =
      libraries.filterMap (fun l => if p l.syncKey then some l.syncKey else none) := by
  rw [← List.filterMap_eq_filter, List.filterMap_map]
  congr 1
  funext l
  by_cases h : p l.syncKey <;> simp [Option.guard, h]

/-- The results of libraries that give the names make the report on the replies to their keys. -/
theorem reportOf_eq {libraries : List LibraryRef}
    (hname : ∀ l ∈ libraries, rule.libraryName l.syncKey = l.libraryName) :
    reportOf rule (libraries.map (fun l => (l, .ofReply (reply l.syncKey)))) =
      reportOn rule reply (libraries.map (·.syncKey)) := by
  rw [reportOf, reportOn, LaunchReport.mk.injEq, filter_map_syncKey, filter_map_syncKey,
    List.filterMap_map, List.filterMap_map, List.filterMap_map, List.filterMap_map]
  refine ⟨rfl, ?_, ?_, ?_⟩
  · refine List.filterMap_congr (fun l _ => ?_)
    rcases (reply l.syncKey).trichotomy with h | h | ⟨e, h⟩ <;> simp [h]
  · refine List.filterMap_congr (fun l _ => ?_)
    rcases (reply l.syncKey).trichotomy with h | h | ⟨e, h⟩ <;> simp [h]
  · refine List.filterMap_congr (fun l hl => ?_)
    rcases (reply l.syncKey).trichotomy with h | h | ⟨e, h⟩ <;> simp [h, hname l hl]

/-- Each key is started, or joined, or fails. -/
theorem perm_reportOn (keys : List SyncKey) :
    let report := reportOn rule reply keys
    (report.started ++ report.joined ++ report.failures.map (·.key)).Perm keys := by
  induction keys with
  | nil => exact .nil
  | cons k rest ih =>
      rw [reportOn] at ih ⊢
      dsimp only at ih ⊢
      rcases (reply k).trichotomy with ⟨hs, hj, hf, -⟩ | ⟨hs, hj, hf, -⟩ | ⟨e, hs, hj, hf, -⟩
      · simpa [hs, hj, hf] using ih
      · simp only [hs, hj, hf, List.filter_cons, List.filterMap_cons]
        exact (List.perm_middle.append_right _).trans (ih.cons k)
      · simp only [hs, hj, hf, List.filter_cons, List.filterMap_cons]
        exact List.perm_middle.trans (ih.cons k)

/-- No sync of the rule is in flight when every one failed. -/
theorem trackedKeys_reportOn {keys : List SyncKey} :
    (reportOn rule reply keys).trackedKeys = [] ↔ ∀ k ∈ keys, (failure? (reply k)).isSome := by
  rw [LaunchReport.trackedKeys, reportOn, List.append_eq_nil_iff, List.filter_eq_nil_iff,
    List.filter_eq_nil_iff, ← forall₂_and]
  refine forall₂_congr (fun k _ => ?_)
  rcases (reply k).trichotomy with ⟨hs, hj, hf, -⟩ | ⟨hs, hj, hf, -⟩ | ⟨e, hs, hj, hf, -⟩ <;>
    simp [hs, hj, hf]

/-! ### Replies in any order -/

/-- Takes the replies to the calls for some keys, one after another. -/
def answerAll (l : Launch) (reply : SyncKey → StartAnswer) (order : List SyncKey) : Launch :=
  order.foldl (fun l k => l.answer (l.calls.idxOf k) (reply k)) l

/-- A launch whose replies come in some order: its result, its calls and what observers are told of,
if it comes to an end. -/
def run (rule : Rule) (reply : SyncKey → StartAnswer) (order : List SyncKey) :
    Option (Procedure.Trace (Except MaintenanceError LaunchReport)) :=
  match start rule with
  | .error e => some { result := .error e }
  | .ok l => (l.answerAll reply order).conclude?.map (fun c =>
      { result := c.1, calls := l.calls.map .startSync, events := c.2 })

variable {l : Launch}

theorem rule_answerAll (l : Launch) (reply : SyncKey → StartAnswer) (order : List SyncKey) :
    (l.answerAll reply order).rule = l.rule := by
  induction order generalizing l with
  | nil => rfl
  | cons k rest ih => rw [answerAll, List.foldl_cons, ← answerAll, ih]; rfl

/-- Only the replies to the calls that are answered count. -/
theorem answerAll_congr {reply reply' : SyncKey → StartAnswer} {order : List SyncKey}
    (h : ∀ k ∈ order, reply k = reply' k) (l : Launch) :
    l.answerAll reply order = l.answerAll reply' order := by
  induction order generalizing l with
  | nil => rfl
  | cons k rest ih =>
      obtain ⟨hk, hrest⟩ := List.forall_mem_cons.mp h
      rw [answerAll, List.foldl_cons, hk, ← answerAll, ih hrest]
      rfl

theorem calls_answer (l : Launch) (n : Nat) (reply : StartAnswer) :
    (l.answer n reply).calls = l.calls := by
  simp only [calls, answer]
  generalize l.replies = replies
  induction replies generalizing n with
  | nil => rw [List.modify_nil]
  | cons r rest ih =>
      cases n with
      | zero => rfl
      | succ n => rw [List.modify_succ_cons, List.map_cons, ih, List.map_cons]

/-- The reply to the call for a key is a reply to no other call. -/
theorem replies_answer (hnodup : l.calls.Nodup) (k : SyncKey) (reply : StartAnswer) :
    (l.answer (l.calls.idxOf k) reply).replies =
      l.replies.map (fun r => if r.1.syncKey = k then (r.1, some reply) else r) := by
  simp only [calls, answer] at hnodup ⊢
  generalize l.replies = replies at hnodup ⊢
  induction replies with
  | nil => rfl
  | cons r rest ih =>
      rw [List.map_cons, List.nodup_cons] at hnodup
      by_cases hk : r.1.syncKey = k
      · -- no other call is for this key
        have hrest : ∀ x ∈ rest, x.1.syncKey ≠ k := fun x hx hxk =>
          hnodup.1 (hk.trans hxk.symm ▸ List.mem_map.mpr ⟨x, hx, rfl⟩)
        rw [List.map_cons, List.idxOf_cons_eq _ hk, List.modify_zero_cons, List.map_cons, if_pos hk,
          List.map_congr_left (fun x hx => if_neg (hrest x hx)), List.map_id']
      · rw [List.map_cons, List.idxOf_cons_ne _ hk, List.modify_succ_cons, ih hnodup.2,
          List.map_cons, if_neg hk]

theorem replies_answerAll (hnodup : l.calls.Nodup) (order : List SyncKey) :
    (l.answerAll reply order).replies =
      l.replies.map (fun r =>
        if r.1.syncKey ∈ order then (r.1, some (reply r.1.syncKey)) else r) := by
  induction order generalizing l with
  | nil => simp [answerAll]
  | cons k rest ih =>
      rw [answerAll, List.foldl_cons, ← answerAll, ih (by rwa [calls_answer]),
        replies_answer hnodup, List.map_map]
      refine List.map_congr_left (fun r _ => ?_)
      by_cases hk : r.1.syncKey = k <;> by_cases hrest : r.1.syncKey ∈ rest <;>
        simp [hk, hrest]

/-- There are results when every reply has come. -/
theorem results?_eq (l : Launch) :
    l.results? = if l.replies.all (·.2.isSome) then
      some (l.replies.filterMap (fun r => r.2.map (fun reply => (r.1, .ofReply reply))))
    else none := by
  rw [results?]
  induction l.replies with
  | nil => rfl
  | cons r rest ih =>
      obtain ⟨library, reply⟩ := r
      rw [List.mapM_cons, ih, List.all_cons, List.filterMap_cons]
      cases reply with
      | none => rfl
      | some reply => cases rest.all (·.2.isSome) <;> rfl

/-- A launch to whose calls no reply has come. -/
def unanswered (rule : Rule) : Launch := ⟨rule, rule.distinctLibraries.map (fun l => (l, none))⟩

theorem calls_unanswered (rule : Rule) : (unanswered rule).calls = rule.syncKeys := by
  rw [unanswered, calls, List.map_map, ← Rule.map_syncKey_distinctLibraries]
  rfl

theorem start_eq (rule : Rule) :
    start rule = if rule.libraries = [] then
      .error (.validation ("Rule '" ++ rule.name ++ "' has no libraries to sync"))
    else .ok (unanswered rule) := by
  simp only [start, Rule.distinctLibraries_eq_nil, unanswered]

/-- When replies to some calls have come, each is with the libraries of its key. -/
theorem replies_unanswered (rule : Rule) (reply : SyncKey → StartAnswer) (order : List SyncKey) :
    ((unanswered rule).answerAll reply order).replies =
      rule.distinctLibraries.map (fun l =>
        (l, if l.syncKey ∈ order then some (reply l.syncKey) else none)) := by
  rw [replies_answerAll (by rw [calls_unanswered]; exact rule.nodup_syncKeys), unanswered,
    List.map_map]
  refine List.map_congr_left (fun l _ => ?_)
  by_cases h : l.syncKey ∈ order <;> simp [h]

/-- When all replies have come, each library has its result. -/
theorem results?_unanswered {order : List SyncKey} (horder : ∀ k ∈ rule.syncKeys, k ∈ order) :
    ((unanswered rule).answerAll reply order).results? =
      some (rule.distinctLibraries.map (fun l => (l, .ofReply (reply l.syncKey)))) := by
  have hmem : ∀ l ∈ rule.distinctLibraries, l.syncKey ∈ order := fun l hl =>
    horder l.syncKey (rule.map_syncKey_distinctLibraries ▸ List.mem_map.mpr ⟨l, hl, rfl⟩)
  have hreplies : ((unanswered rule).answerAll reply order).replies =
      rule.distinctLibraries.map (fun l => (l, some (reply l.syncKey))) := by
    rw [replies_unanswered]
    exact List.map_congr_left (fun l hl => by rw [if_pos (hmem l hl)])
  rw [results?_eq, hreplies, if_pos (by simp), List.filterMap_map, ← List.filterMap_eq_map]
  rfl

/-- When all replies have come, the launch ends with the report on them. -/
theorem conclude?_unanswered {order : List SyncKey} (horder : ∀ k ∈ rule.syncKeys, k ∈ order) :
    let report := reportOn rule reply rule.syncKeys
    let failures := report.failures.map (failureEvent rule)
    ((unanswered rule).answerAll reply order).conclude? = some (
      if ∀ k ∈ rule.syncKeys, (failure? (reply k)).isSome then
        (.error (.allSyncStartsFailed rule.id
          (report.failures.map (fun f => f.libraryName ++ ": " ++ f.message))), failures)
      else (.ok report,
        failures ++ [.sync (.started rule.id (report.trackedKeys.map (·.encode)))])) := by
  intro report failures
  have hreport : reportOf rule (rule.distinctLibraries.map (fun l =>
      (l, .ofReply (reply l.syncKey)))) = report := by
    rw [reportOf_eq (fun l hl => Rule.libraryName_of_mem_distinctLibraries hl),
      Rule.map_syncKey_distinctLibraries]
  rw [conclude?, results?_unanswered horder, rule_answerAll, Option.map_some, unanswered, conclude,
    hreport]
  simp only [report, trackedKeys_reportOn]
  rfl

/-- A failure has the name of the first library of its key. -/
theorem find?_of_mem_failures {f : StartFailure}
    (hf : f ∈ (reportOn rule reply rule.syncKeys).failures) :
    ∃ l, rule.libraries.find? (·.syncKey = f.key) = some l ∧ f.libraryName = l.libraryName := by
  obtain ⟨k, hk, hfailure⟩ := List.mem_filterMap.mp hf
  obtain ⟨e, -, rfl⟩ := Option.map_eq_some_iff.mp hfailure
  rw [← Rule.map_syncKey_distinctLibraries] at hk
  obtain ⟨l, hl, rfl⟩ := List.mem_map.mp hk
  exact ⟨l, Rule.find?_of_mem_distinctLibraries hl, Rule.libraryName_of_mem_distinctLibraries hl⟩

/-- **A launch goes by what the replies say, whatever their order.**  It makes one call for each key
of the rule.  Every key is started, or joined, or fails with the name of its first library; there is
a report unless all fail, and a rule without libraries is refused. -/
theorem run_in_any_order {order : List SyncKey} (horder : order.Perm rule.syncKeys) :
    let report := reportOn rule reply rule.syncKeys
    run rule reply order = some {
      result :=
        if rule.libraries = [] then
          .error (.validation ("Rule '" ++ rule.name ++ "' has no libraries to sync"))
        else if ∀ k ∈ rule.syncKeys, (failure? (reply k)).isSome then
          .error (.allSyncStartsFailed rule.id
            (report.failures.map (fun f => f.libraryName ++ ": " ++ f.message)))
        else .ok report
      calls := rule.syncKeys.map .startSync
      events := report.failures.map (fun f =>
          .sync (.startFailed rule.id f.libraryName f.message)) ++
        if ∀ k ∈ rule.syncKeys, (failure? (reply k)).isSome then []
        else [.sync (.started rule.id ((report.started ++ report.joined).map (·.encode)))] } ∧
    rule.syncKeys.Nodup ∧ (rule.syncKeys = [] ↔ rule.libraries = []) ∧
    (report.started ++ report.joined ++ report.failures.map (·.key)).Perm rule.syncKeys ∧
    ∀ f ∈ report.failures, ∃ l, rule.libraries.find? (·.syncKey = f.key) = some l ∧
      f.libraryName = l.libraryName := by
  intro report
  refine ⟨?_, rule.nodup_syncKeys, Rule.syncKeys_eq_nil, perm_reportOn _,
    fun f hf => find?_of_mem_failures hf⟩
  rw [run, start_eq]
  by_cases hempty : rule.libraries = []
  · have hkeys : rule.syncKeys = [] := Rule.syncKeys_eq_nil.mpr hempty
    simp [hempty, hkeys, report, reportOn]
  · simp only [if_neg hempty, conclude?_unanswered (fun k hk => horder.mem_iff.mpr hk),
      calls_unanswered, Option.map_some]
    by_cases hall : ∀ k ∈ rule.syncKeys, (failure? (reply k)).isSome
    · simp only [if_pos hall, List.append_nil]
      rfl
    · simp only [if_neg hall]
      rfl

/-- Two libraries have one key, and their sync fails; another sync runs already, and its reply comes
first. -/
theorem run_with_conflict :
    let rule : Rule :=
      ⟨7, "Old", [⟨1, "films", "Films"⟩, ⟨2, "shows", "Shows"⟩, ⟨1, "films", "4K"⟩]⟩
    let films : SyncKey := ⟨1, "films"⟩
    let shows : SyncKey := ⟨2, "shows"⟩
    let reply (k : SyncKey) : StartAnswer :=
      if k = films then .error .cancelled else .error (.api 409 "busy")
    run rule reply [shows, films] = some {
      result := .ok ⟨7, [], [shows], [⟨films, "Films", "Operation cancelled"⟩]⟩
      calls := [.startSync films, .startSync shows]
      events := [.sync (.startFailed 7 "Films" "Operation cancelled"),
        .sync (.started 7 ["2:shows"])] } := by
  intro rule films shows reply
  have horder : [shows, films].Perm rule.syncKeys := by decide +kernel
  refine (run_in_any_order horder).1.trans ?_
  rfl

end Launch

end MediaMonitor
