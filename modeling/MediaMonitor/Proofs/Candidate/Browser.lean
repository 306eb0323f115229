import MediaMonitor.Candidate.Browser
import MediaMonitor.Proofs.Procedure
import MediaMonitor.Proofs.Text.Blank

/-!
# The course of a browser

A `BrowserCourse` is a browser and its backend, which answers as it likes, with all the answers that
the browser got.  Whatever is done with a browser, its selection is on the page that was fetched
last, this page was fetched for the rule the browser is at, and its query can be asked
(`BrowserCourse.selected_in_view`).
-/

namespace MediaMonitor

namespace Browser

/-- What is selected is in view, and the query can be asked. -/
structure Sound (b : Browser) : Prop where
  selected : ∀ id, b.selection.contains id = true → id ∈ b.visible
  page : 1 ≤ b.query.page
  perPage : 1 ≤ b.query.perPage
  search : ∀ term ∈ b.query.search, term ≠ "" ∧ Text.Trimmed term.toList

section
variable {b : Browser}

theorem visible_of_page {p : CandidatePage} (h : b.page = some p) :
    b.visible = p.items.map (·.id) := by
  rw [visible, candidates, h]

/-- A browser that shows no page has nothing selected. -/
theorem Sound.selection_eq_empty (hb : b.Sound) (h : b.page = none) : b.selection = .empty := by
  refine Selection.eq_empty_of_ids (List.eq_nil_iff_forall_not_mem.mpr fun id hid => ?_)
  have hview := hb.selected id (Selection.mem_ids.mp hid)
  rw [visible, candidates, h] at hview
  cases hview

/-! ### What is done with a browser -/

/-- Where nothing is selected, only the query matters. -/
theorem sound_of_empty (h : b.selection = .empty) (hpage : 1 ≤ b.query.page)
    (hper : 1 ≤ b.query.perPage)
    (hsearch : ∀ term ∈ b.query.search, term ≠ "" ∧ Text.Trimmed term.toList) : b.Sound := by
  refine ⟨fun id hid => ?_, hpage, hper, hsearch⟩
  rw [h] at hid
  cases hid

theorem one_le_max (n : UInt32) : 1 ≤ max n 1 := by
  show 1 ≤ if n ≤ 1 then 1 else n
  split
  case isTrue => exact UInt32.le_refl 1
  case isFalse h => exact UInt32.le_of_lt (UInt32.not_le.mp h)

theorem one_le_of_ne_zero {n : UInt32} (h : n ≠ 0) : 1 ≤ n :=
  UInt32.le_iff_toNat_le.mpr (Nat.one_le_iff_ne_zero.mpr fun h₀ => h (UInt32.toNat_inj.mp h₀))

theorem sound_start (ruleId : Int64) (perPage : UInt32) : (start ruleId perPage).Sound :=
  sound_of_empty rfl (UInt32.le_refl 1) (one_le_max perPage) nofun

theorem setRule_self (b : Browser) : b.setRule b.ruleId = b := if_pos rfl

theorem setPage_zero (b : Browser) :
    b.setPage 0 = .error (.validation "Page numbers start at 1") := if_pos rfl

theorem Sound.setRule (hb : b.Sound) (ruleId : Int64) : (b.setRule ruleId).Sound := by
  rw [Browser.setRule]
  split
  · exact hb
  · exact sound_of_empty rfl (UInt32.le_refl 1) hb.perPage nofun

theorem Sound.setPage (hb : b.Sound) {page : UInt32} {b' : Browser}
    (h : b.setPage page = .ok b') : b'.Sound := by
  rw [Browser.setPage] at h
  split at h
  case isTrue => cases h
  case isFalse hne =>
    cases h
    exact sound_of_empty rfl (one_le_of_ne_zero hne) hb.perPage hb.search

theorem Sound.setSearch (hb : b.Sound) (term : String) : (b.setSearch term).Sound := by
  refine sound_of_empty rfl (UInt32.le_refl 1) hb.perPage (fun found h => ?_)
  dsimp only [Browser.setSearch, clearSelection] at h
  split at h
  case isTrue => cases h
  case isFalse hne =>
    cases h
    refine ⟨hne, ?_⟩
    rw [Text.trim, String.toList_ofList]
    exact Text.trimmed_trimChars _

theorem Sound.cycleSort (hb : b.Sound) (column : SortColumn) : (b.cycleSort column).Sound :=
  sound_of_empty rfl (UInt32.le_refl 1) hb.perPage hb.search

theorem Sound.toggle (hb : b.Sound) (id : Int64) : (b.toggle id).Sound := by
  rw [Browser.toggle]
  split
  case isFalse => exact hb
  case isTrue hview =>
    refine ⟨fun i hi => ?_, hb.page, hb.perPage, hb.search⟩
    rw [Selection.contains_toggle] at hi
    split at hi
    case isTrue heq => exact heq ▸ hview
    case isFalse => exact hb.selected i hi

theorem Sound.selectPage (hb : b.Sound) : b.selectPage.Sound := by
  refine ⟨fun i hi => ?_, hb.page, hb.perPage, hb.search⟩
  rw [Browser.selectPage, Selection.contains_selectAll, Bool.or_eq_true] at hi
  rcases hi with hi | hi
  · exact of_decide_eq_true hi
  · exact hb.selected i hi

theorem Sound.clearSelection (hb : b.Sound) : b.clearSelection.Sound :=
  sound_of_empty rfl hb.page hb.perPage hb.search

/-- A fetched page keeps of the selection what it holds. -/
theorem Sound.withPage (hb : b.Sound) (p : CandidatePage) : (b.withPage p).Sound := by
  refine ⟨fun i hi => ?_, hb.page, hb.perPage, hb.search⟩
  rw [Browser.withPage, Selection.contains_retain, Bool.and_eq_true] at hi
  rw [visible_of_page rfl]
  exact List.contains_iff_mem.mp hi.1

/-! ### Refreshing -/

/-- The call that fetches the page in view. -/
def listing (b : Browser) : BackendCall := .listCandidates b.ruleId b.query

/-- The browser when the reply to its call has come. -/
def refreshed (b : Browser) : Except MaintenanceError CandidatePage → Browser
  | .ok page => b.withPage page
  | .error _ => b

theorem run_refresh {σ : Type} (answer : σ → (c : BackendCall) → c.Outcome × σ) (b : Browser)
    (s : σ) :
    b.refresh.run answer s =
      let reply : Except MaintenanceError CandidatePage := (answer s b.listing).1
      ({ result := (reply, b.refreshed reply), calls := [b.listing] },
        (answer s b.listing).2) := by
  rw [refresh, Procedure.run_call_bind]
  dsimp only [listing, refreshed]
  cases (answer s (.listCandidates b.ruleId b.query)).1 <;> rfl

theorem Sound.refreshed (hb : b.Sound) (reply : Except MaintenanceError CandidatePage) :
    (b.refreshed reply).Sound := by
  cases reply with
  | ok page => exact hb.withPage page
  | error _ => exact hb

end

end Browser

/-! ### Courses -/

/-- What is done with a browser. -/
inductive BrowserAction where
  | setRule (ruleId : Int64)
  | setPage (page : UInt32)
  | setSearch (term : String)
  | cycleSort (column : SortColumn)
  | toggle (id : Int64)
  | selectPage
  | clearSelection
  /-- The page in view is fetched, which may fail. -/
  | refresh

/-- A browser, its backend, and the replies that the browser got, the oldest first. -/
structure BrowserCourse (σ : Type) where
  browser : Browser
  backend : σ
  replies : List ((c : BackendCall) × c.Outcome) := []

/-- The rule and the query for which a page was fetched, and the page. -/
def fetched? : (c : BackendCall) × c.Outcome → Option (Int64 × CandidateQuery × CandidatePage)
  | ⟨.listCandidates ruleId query, .ok page⟩ => some (ruleId, query, page)
  | _ => none

namespace BrowserCourse

variable {σ : Type} (answer : σ → (c : BackendCall) → c.Outcome × σ)

/-- Goes on with an action. -/
def step (h : BrowserCourse σ) : BrowserAction → BrowserCourse σ
  | .setRule ruleId => { h with browser := h.browser.setRule ruleId }
  | .setPage page =>
      match h.browser.setPage page with
      | .ok b => { h with browser := b }
      | .error _ => h
  | .setSearch term => { h with browser := h.browser.setSearch term }
  | .cycleSort column => { h with browser := h.browser.cycleSort column }
  | .toggle id => { h with browser := h.browser.toggle id }
  | .selectPage => { h with browser := h.browser.selectPage }
  | .clearSelection => { h with browser := h.browser.clearSelection }
  | .refresh =>
      let (trace, backend) := h.browser.refresh.run answer h.backend
      { browser := trace.result.2
        backend := backend
        replies := h.replies ++ Procedure.replies answer trace.calls h.backend }

/-- The course of a browser that has fetched nothing. -/
def of (backend : σ) (ruleId : Int64) (perPage : UInt32) (actions : List BrowserAction) :
    BrowserCourse σ :=
  actions.foldl (step answer) { browser := .start ruleId perPage, backend := backend }

/-- The page that was fetched last, with the rule and the query it was fetched for. -/
def lastFetched? (h : BrowserCourse σ) : Option (Int64 × CandidateQuery × CandidatePage) :=
  (h.replies.filterMap fetched?).getLast?

/-- What is in view was fetched last, for the rule the browser is at. -/
structure Current (h : BrowserCourse σ) : Prop where
  sound : h.browser.Sound
  page : ∀ p, h.browser.page = some p →
    ∃ query, h.lastFetched? = some (h.browser.ruleId, query, p)

section
variable {answer} {h : BrowserCourse σ}

theorem step_refresh (h : BrowserCourse σ) :
    h.step answer .refresh =
      let reply : Except MaintenanceError CandidatePage := (answer h.backend h.browser.listing).1
      { browser := h.browser.refreshed reply
        backend := (answer h.backend h.browser.listing).2
        replies := h.replies ++ [⟨h.browser.listing, reply⟩] } := by
  rw [step, Browser.run_refresh]
  rfl

/-- Nothing is fetched, and the rule and the page stay the same. -/
theorem Current.keep (hc : h.Current) {b : Browser} (hb : b.Sound)
    (hrule : b.ruleId = h.browser.ruleId) (hpage : b.page = h.browser.page) :
    Current { h with browser := b } := by
  refine ⟨hb, fun p hp => ?_⟩
  obtain ⟨query, hlast⟩ := hc.page p (hpage.symm.trans hp)
  exact ⟨query, by rw [hrule]; exact hlast⟩

/-- A change to another rule leaves no page in view. -/
theorem Current.setRule (hc : h.Current) (ruleId : Int64) :
    Current { h with browser := h.browser.setRule ruleId } := by
  by_cases hsame : ruleId = h.browser.ruleId
  · rw [hsame, Browser.setRule_self]
    exact hc
  · refine ⟨hc.sound.setRule ruleId, fun p hp => ?_⟩
    rw [Browser.setRule, if_neg hsame] at hp
    cases hp

theorem Current.setPage (hc : h.Current) (page : UInt32) :
    (h.step answer (.setPage page)).Current := by
  rw [step]
  cases hset : h.browser.setPage page with
  | error e => exact hc
  | ok b =>
      refine hc.keep (hc.sound.setPage hset) ?_ ?_ <;>
      · rw [Browser.setPage] at hset
        split at hset <;> cases hset
        rfl

/-- A page that is fetched is fetched for the rule the browser is at. -/
theorem Current.refresh (hc : h.Current) : (h.step answer .refresh).Current := by
  rw [step_refresh]
  dsimp only
  generalize hreply : (answer h.backend h.browser.listing).1 = reply
  refine ⟨hc.sound.refreshed reply, fun p hp => ?_⟩
  rw [lastFetched?, List.filterMap_append]
  cases reply with
  | error e =>
      -- a reply that is an error fetched nothing, so the page before it is still the last one
      obtain ⟨query, hlast⟩ := hc.page p hp
      have hnone : [⟨h.browser.listing, .error e⟩].filterMap fetched? = [] := rfl
      rw [hnone, List.append_nil]
      exact ⟨query, hlast⟩
  | ok page =>
      cases hp
      exact ⟨h.browser.query, List.getLast?_concat ..⟩

/-- **Whatever is done keeps the view current.** -/
theorem Current.step (hc : h.Current) (a : BrowserAction) : (h.step answer a).Current := by
  cases a with
  | setRule ruleId => exact hc.setRule ruleId
  | setPage page => exact hc.setPage page
  | setSearch term => exact hc.keep (hc.sound.setSearch term) rfl rfl
  | cycleSort column => exact hc.keep (hc.sound.cycleSort column) rfl rfl
  | toggle id =>
      refine hc.keep (hc.sound.toggle id) ?_ ?_ <;>
      · rw [Browser.toggle]
        split <;> rfl
  | selectPage => exact hc.keep hc.sound.selectPage rfl rfl
  | clearSelection => exact hc.keep hc.sound.clearSelection rfl rfl
  | refresh => exact hc.refresh

end

theorem current (backend : σ) (ruleId : Int64) (perPage : UInt32) (actions : List BrowserAction) :
    (of answer backend ruleId perPage actions).Current := by
  have hstart : Current { browser := .start ruleId perPage, backend := backend } :=
    ⟨Browser.sound_start ruleId perPage, nofun⟩
  suffices ∀ h, Current h → (actions.foldl (step answer) h).Current from this _ hstart
  induction actions with
  | nil => exact fun _ hc => hc
  | cons a rest ih => exact fun h hc => ih _ (hc.step a)

/-- **What is selected is on the page that was fetched last**, which was fetched for the rule the
browser is at; a browser without a page has nothing selected, and its query can always be asked.  A
fetch that fails, a page number of zero and the rule the browser is at already change nothing. -/
theorem selected_in_view (backend : σ) (ruleId : Int64) (perPage : UInt32)
    (actions : List BrowserAction) :
    let h := of answer backend ruleId perPage actions
    (∀ id ∈ h.browser.selection.ids, id ∈ h.browser.candidates.map (·.id)) ∧
      (∀ p, h.browser.page = some p →
        ∃ query, h.lastFetched? = some (h.browser.ruleId, query, p)) ∧
      (h.browser.page = none → h.browser.selection = .empty) ∧
      1 ≤ h.browser.query.page ∧ 1 ≤ h.browser.query.perPage ∧
      (∀ term ∈ h.browser.query.search, term ≠ "" ∧ Text.Trimmed term.toList) ∧
      (∀ e, (h.browser.refresh.run answer h.backend).1.result.1 = .error e →
        (h.step answer .refresh).browser = h.browser) ∧
      (h.browser.setPage 0 = .error (.validation "Page numbers start at 1") ∧
        h.step answer (.setPage 0) = h) ∧
      h.step answer (.setRule h.browser.ruleId) = h := by
  intro h
  have hc : h.Current := current answer backend ruleId perPage actions
  refine ⟨fun id hid => hc.sound.selected id (Selection.mem_ids.mp hid), hc.page,
    hc.sound.selection_eq_empty, hc.sound.page, hc.sound.perPage, hc.sound.search, ?_,
    ⟨Browser.setPage_zero _, ?_⟩, ?_⟩
  · intro e he
    rw [Browser.run_refresh] at he
    rw [step_refresh]
    exact congrArg h.browser.refreshed he
  · rw [step, Browser.setPage_zero]
  · rw [step, Browser.setRule_self]

/-- Two candidates are fetched and one of them is selected; then the backend fails. -/
theorem selected_after_failure :
    let candidate (id : Int64) : Candidate := { (default : Candidate) with id := id }
    let page : CandidatePage := ⟨[candidate 7, candidate 9], 2, 0⟩
    let answer (s : Nat) (c : BackendCall) : c.Outcome × Nat :=
      (match c with
        | .listCandidates _ _ => if s = 0 then .ok page else .error .cancelled
        | _ => .error .cancelled, s + 1)
    let h := of answer 0 3 25 [.refresh, .selectPage, .toggle 7]
    h.browser.selection.ids = [9] ∧ h.browser.page = some page ∧
      (∃ query, h.lastFetched? = some (3, query, page)) ∧
      (h.browser.refresh.run answer h.backend).1.result.1 = .error .cancelled ∧
      (h.step answer .refresh).browser = h.browser := by
  intro candidate page answer h
  obtain ⟨-, hpage, -, -, -, -, hfails, -, -⟩ :=
    selected_in_view answer 0 3 25 [.refresh, .selectPage, .toggle 7]
  have hshown : h.browser.page = some page := by decide +kernel
  have hfailed : (h.browser.refresh.run answer h.backend).1.result.1 = .error .cancelled := by
    rfl
  exact ⟨by decide +kernel, hshown, hpage page hshown, hfailed, hfails _ hfailed⟩

end BrowserCourse

end MediaMonitor
