import MediaMonitor.Proofs.Http.Requests
import MediaMonitor.Proofs.Text.Blank
import MediaMonitor.Settings

/-!
# The address of the backend

White space is dropped around an address before the slashes at its end are, and only once.  What is
left ends in no slash; it ends in white space if and only if white space stood before those slashes
(`Settings.BlankBeforeSlashes`), and only then it would be shortened again.  The backend keeps the
address of built settings as it is, and every request goes to this address, directly followed by its
path (`SettingsDraft.baseUrl_of_build`).
-/

namespace MediaMonitor

open Text

namespace Settings

/-- In an address without the white space around it, white space is followed by slashes only. -/
def BlankBeforeSlashes (url : String) : Prop :=
  ∃ host c slashes, trimChars url.toList = host ++ c :: slashes ∧ isBlank c = true ∧
    ∀ d ∈ slashes, d = '/'

section
variable {url : String}

/-! ### What is left of an address -/

theorem toList_normalizeUrl (url : String) :
    (normalizeUrl url).toList = dropEndWhile (· = '/') (trimChars url.toList) :=
  String.toList_ofList

/-- Only slashes are dropped behind it. -/
theorem exists_normalizeUrl (url : String) :
    ∃ slashes, trimChars url.toList = (normalizeUrl url).toList ++ slashes ∧
      ∀ d ∈ slashes, d = '/' := by
  obtain ⟨slashes, hcut, hall⟩ := exists_dropEndWhile (· = '/') (trimChars url.toList)
  exact ⟨slashes, by rwa [toList_normalizeUrl], fun d hd => of_decide_eq_true (hall d hd)⟩

theorem getLast?_normalizeUrl (url : String) : (normalizeUrl url).toList.getLast? ≠ some '/' := by
  intro hlast
  rw [toList_normalizeUrl] at hlast
  exact absurd (getLast?_dropEndWhile _ hlast) (by decide)

theorem head?_normalizeUrl (url : String) :
    ∀ c ∈ (normalizeUrl url).toList.head?, isBlank c = false := by
  intro c hc
  obtain ⟨slashes, hcut, -⟩ := exists_normalizeUrl url
  refine (trimmed_trimChars url.toList).1 c ?_
  rw [hcut, List.head?_append, Option.mem_def.mp hc]
  rfl

/-- White space is left at the end if and only if slashes were dropped behind it. -/
theorem trimmed_normalizeUrl_iff :
    Trimmed (normalizeUrl url).toList ↔ ¬ BlankBeforeSlashes url := by
  constructor
  · rintro ⟨-, hlast⟩ ⟨host, c, slashes, hcut, hblank, hall⟩
    have hslash : c ≠ '/' := by
      rintro rfl
      cases hblank
    have hleft : (normalizeUrl url).toList = host ++ [c] := by
      rw [toList_normalizeUrl, hcut, List.append_cons host c slashes,
        dropEndWhile_append fun d hd => decide_eq_true (hall d hd)]
      exact dropEndWhile_of_getLast? (by simp [hslash])
    rw [hleft, List.getLast?_concat] at hlast
    rw [hlast c rfl] at hblank
    cases hblank
  · intro hblank
    refine ⟨head?_normalizeUrl url, fun c hc => Bool.eq_false_iff.mpr fun hc' => hblank ?_⟩
    obtain ⟨host, hhost⟩ := List.getLast?_eq_some_iff.mp hc
    obtain ⟨slashes, hcut, hall⟩ := exists_normalizeUrl url
    rw [hhost, List.append_assoc] at hcut
    exact ⟨host, c, slashes, hcut, hc', hall⟩

/-- An address is not shortened again if and only if no white space is left at its end. -/
theorem normalizeUrl_normalizeUrl_iff :
    normalizeUrl (normalizeUrl url) = normalizeUrl url ↔ Trimmed (normalizeUrl url).toList := by
  rw [← String.toList_inj, toList_normalizeUrl (normalizeUrl url), ← trimChars_eq_self_iff]
  constructor
  · intro hsame
    have hinfix := trimChars_infix (normalizeUrl url).toList
    have hprefix := dropEndWhile_prefix (· = '/') (trimChars (normalizeUrl url).toList)
    rw [hsame] at hprefix
    exact hinfix.eq_of_length_le hprefix.length_le
  · intro htrimmed
    rw [htrimmed]
    refine dropEndWhile_of_getLast? fun c hc => decide_eq_false ?_
    rintro rfl
    exact getLast?_normalizeUrl url hc

end

end Settings

/-- The backend takes an address that ends in no slash as it is. -/
theorem HttpBackend.baseUrl_ofUrl {url : String} (apiKey : Option String) (timeout : Duration)
    (h : url.toList.getLast? ≠ some '/') : (ofUrl url apiKey timeout).baseUrl = url := by
  have hkept : dropEndWhile (· = '/') url.toList = url.toList :=
    dropEndWhile_of_getLast? fun c hc => decide_eq_false (by rintro rfl; exact h hc)
  change String.ofList (dropEndWhile (· = '/') url.toList) = url
  rw [hkept, String.ofList_toList]

namespace SettingsDraft

variable (d : SettingsDraft) {url : String} {s : Settings}

/-! ### What is built -/

/-- The settings that a draft describes, with an address. -/
def settings (d : SettingsDraft) (url : String) : Settings where
  baseUrl := Settings.normalizeUrl url
  apiKey := d.apiKey
  requestTimeout := d.requestTimeout.getD (.ofSeconds 30)
  pollInterval := d.pollInterval.getD (.ofSeconds 2)
  eventBufferSize := d.eventBufferSize.getD 100

/-- What is built are the settings that the draft describes, if there is a transport and they are
valid. -/
theorem build_eq_ok_iff (hurl : d.baseUrl = some url) :
    d.build = .ok s ↔
      d.hasTransport = true ∧ s = d.settings url ∧ (d.settings url).validate = .ok () := by
  have hbuild : d.build =
      if d.hasTransport then (d.settings url).validate.map fun _ => d.settings url
      else .error transportMissing := by
    rw [build, hurl]
    cases d.hasTransport
    · rfl
    · change (d.settings url).validate.bind (fun _ => .ok (d.settings url)) = _
      cases (d.settings url).validate <;> rfl
  rw [hbuild]
  cases d.hasTransport with
  | false => simp
  | true =>
    cases hvalid : (d.settings url).validate <;> simp [Except.map, eq_comm]

/-- An address that is not shortened again gives the same settings again. -/
theorem settings_again (h : Settings.normalizeUrl (Settings.normalizeUrl url) =
      Settings.normalizeUrl url) (baseUrl : Option String) :
    { d with baseUrl := baseUrl }.settings (Settings.normalizeUrl url) = d.settings url := by
  rw [settings, settings, h]

/-- **The address of built settings** is the given one without the white space around it and
without the slashes that are left at its end then: it begins with no white space and ends in no
slash.  Neither does it end in white space, and from it the same address is built again, if and only
if no white space stood before those slashes.  The backend keeps it, and the address of every
request is this one, directly followed by a path of the interface. -/
theorem baseUrl_of_build (d : SettingsDraft) (url : String) (s : Settings)
    (hurl : d.baseUrl = some url) (hbuild : d.build = .ok s) :
    (∃ slashes, trimChars url.toList = s.baseUrl.toList ++ slashes ∧ ∀ c ∈ slashes, c = '/') ∧
      (∀ c ∈ s.baseUrl.toList.head?, isBlank c = false) ∧
      s.baseUrl.toList.getLast? ≠ some '/' ∧
      (Trimmed s.baseUrl.toList ↔ ¬ Settings.BlankBeforeSlashes url) ∧
      ((∃ t, { d with baseUrl := some s.baseUrl }.build = .ok t ∧ t.baseUrl = s.baseUrl) ↔
        ¬ Settings.BlankBeforeSlashes url) ∧
      ∀ (apiKey : Option String) (timeout : Duration),
        let b := HttpBackend.ofUrl s.baseUrl apiKey timeout
        b.baseUrl = s.baseUrl ∧ ∀ call, "/api/".toList <+: (HttpBackend.path call).toList ∧
          (b.request call).request.url = s.baseUrl ++ HttpBackend.path call := by
  obtain ⟨htransport, rfl, hvalid⟩ := (d.build_eq_ok_iff hurl).mp hbuild
  refine ⟨Settings.exists_normalizeUrl url, Settings.head?_normalizeUrl url,
    Settings.getLast?_normalizeUrl url, Settings.trimmed_normalizeUrl_iff, ?_,
    fun apiKey timeout => ?_⟩
  · rw [← Settings.trimmed_normalizeUrl_iff, ← Settings.normalizeUrl_normalizeUrl_iff]
    constructor
    · rintro ⟨t, hagain, hsame⟩
      obtain ⟨-, rfl, -⟩ := (build_eq_ok_iff _ rfl).mp hagain
      exact hsame
    · intro hsame
      have hsettings := d.settings_again hsame (some (Settings.normalizeUrl url))
      refine ⟨d.settings url, (build_eq_ok_iff _ rfl).mpr ⟨htransport, hsettings.symm, ?_⟩, rfl⟩
      exact (congrArg Settings.validate hsettings).trans hvalid
  · have hkept := HttpBackend.baseUrl_ofUrl apiKey timeout (Settings.getLast?_normalizeUrl url)
    intro b
    refine ⟨hkept, fun call => ⟨HttpBackend.prefix_path call, ?_⟩⟩
    rw [b.url_request]
    exact congrArg (· ++ HttpBackend.path call) hkept

/-- A draft with nothing but a transport and an address. -/
def ofUrl (url : String) : SettingsDraft := { baseUrl := some url, hasTransport := true }

/-- An address with white space around it, and slashes before the white space at its end. -/
theorem baseUrl_of_padded_address :
    let url := "\u00a0 https://monitor.local/media// \n"
    let s := (ofUrl url).settings url
    (ofUrl url).baseUrl = some url ∧ (ofUrl url).build = .ok s ∧
      s.baseUrl = "https://monitor.local/media" ∧ ¬ Settings.BlankBeforeSlashes url ∧
      (∃ t, { ofUrl url with baseUrl := some s.baseUrl }.build = .ok t ∧
        t.baseUrl = s.baseUrl) ∧
      ((HttpBackend.ofUrl s.baseUrl none s.requestTimeout).request .syncStatus).request.url =
        s.baseUrl ++ "/api/sync/status" := by
  intro url s
  have hvalid : s.validate = .ok () := by decide +kernel
  have hbuild : (ofUrl url).build = .ok s := (build_eq_ok_iff _ rfl).mpr ⟨rfl, rfl, hvalid⟩
  have hkept : s.baseUrl = "https://monitor.local/media" := by decide +kernel
  have hends : Trimmed s.baseUrl.toList := by
    rw [hkept]
    exact trimChars_eq_self_iff.mp (by decide +kernel)
  obtain ⟨-, -, -, htrimmed, hagain, hurl⟩ := baseUrl_of_build _ url s rfl hbuild
  have hnone := htrimmed.mp hends
  exact ⟨rfl, hbuild, hkept, hnone, hagain.mpr hnone,
    ((hurl none s.requestTimeout).2 .syncStatus).2⟩

/-- White space before the slash at the end is left, and goes when the address is built again. -/
theorem blank_left_before_slash :
    let s := (ofUrl "http://h /").settings "http://h /"
    (ofUrl "http://h /").build = .ok s ∧ s.baseUrl = "http://h " ∧ ¬ Trimmed s.baseUrl.toList ∧
      ((ofUrl s.baseUrl).build).map (·.baseUrl) = .ok "http://h" := by
  intro s
  have hvalid : s.validate = .ok () := by decide +kernel
  have hkept : s.baseUrl = "http://h " := by decide +kernel
  refine ⟨(build_eq_ok_iff _ rfl).mpr ⟨rfl, rfl, hvalid⟩, hkept, fun hends => ?_, ?_⟩
  · rw [hkept] at hends
    exact absurd (hends.2 ' ' rfl) (by decide)
  · rw [hkept]
    decide +kernel

end SettingsDraft

end MediaMonitor
