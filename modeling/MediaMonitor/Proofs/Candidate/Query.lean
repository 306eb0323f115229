import MediaMonitor.Candidate.Query
import MediaMonitor.Proofs.Text.Integer
import MediaMonitor.Proofs.Text.Percent
import MediaMonitor.Text.Split

/-!
# Query strings are read back

A query string is divided at each `&`, each part of it at its first `=`, and the text behind that is
percent-decoded.  What is read so are the parameters of the query, whatever the search term holds
(`CandidateQuery.query_read_back`): the name of a parameter is made of plain characters, and every
other character of its value is encoded.
-/

namespace MediaMonitor

open Text

/-! ### Parameters in general -/

/-- A parameter in a query string: a name, and a value that is percent-encoded. -/
def readParameter? (part : List Char) : Option (String × String) := do
  let (name, value) ← splitFirst '=' part
  let value ← Percent.decode? value
  return (String.ofList name, value)

/-- The parameters in a query string. -/
def readParameters? (s : String) : Option (List (String × String)) :=
  (splitAll '&' s.toList).mapM readParameter?

/-- A parameter as it stands in a query string. -/
def writeParameter (p : String × String) : List Char := p.1.toList ++ '=' :: Percent.encode p.2

/-- The name of a parameter is left as it is. -/
def IsName (name : String) : Prop := ∀ c ∈ name.toList, Percent.IsPlain c

instance (name : String) : Decidable (IsName name) := List.decidableBAll _ name.toList

/-- The characters of a parameter. -/
theorem mem_writeParameter {p : String × String} (hp : IsName p.1) {c : Char}
    (hc : c ∈ writeParameter p) : Percent.IsPlain c ∨ c = '%' ∨ c = '=' := by
  rcases List.mem_append.mp hc with hc | hc
  · exact .inl (hp c hc)
  · rcases List.mem_cons.mp hc with rfl | hc
    · exact .inr (.inr rfl)
    · exact (Percent.mem_encode hc).imp_right .inl

theorem readParameter?_write {p : String × String} (hp : IsName p.1) :
    readParameter? (writeParameter p) = some p := by
  have hmark : '=' ∉ p.1.toList := fun hmem => absurd (hp _ hmem) (by decide)
  simp only [readParameter?, writeParameter, splitFirst_append hmark, Percent.decode?_encode,
    Option.bind_eq_bind, Option.bind_some, String.ofList_toList]
  rfl

/-- Parameters are read from what they are written as, one after another. -/
theorem readParameters?_write {ps : List (String × String)} (hne : ps ≠ [])
    (hps : ∀ p ∈ ps, IsName p.1) :
    readParameters? (String.ofList (['&'].intercalate (ps.map writeParameter))) = some ps := by
  have hmarks : ∀ part ∈ ps.map writeParameter, '&' ∉ part := by
    intro part hpart hmem
    obtain ⟨p, hp, rfl⟩ := List.mem_map.mp hpart
    rcases mem_writeParameter (hps p hp) hmem with hplain | heq | heq
    · exact absurd hplain (by decide)
    · cases heq
    · cases heq
  rw [readParameters?, String.toList_ofList,
    splitAll_intercalate (mt List.map_eq_nil_iff.mp hne) hmarks]
  clear hne hmarks
  induction ps with
  | nil => rfl
  | cons p ps ih =>
      obtain ⟨hp, hps⟩ := List.forall_mem_cons.mp hps
      simp [readParameter?_write hp, ih hps]

/-- The characters of parameters, one after another. -/
theorem mem_intercalate_write {ps : List (String × String)} (hps : ∀ p ∈ ps, IsName p.1)
    {c : Char} (hc : c ∈ ['&'].intercalate (ps.map writeParameter)) :
    Percent.IsPlain c ∨ c = '%' ∨ c = '=' ∨ c = '&' := by
  induction ps with
  | nil => cases hc
  | cons p ps ih =>
      obtain ⟨hp, hps⟩ := List.forall_mem_cons.mp hps
      have hwrite : c ∈ writeParameter p → Percent.IsPlain c ∨ c = '%' ∨ c = '=' ∨ c = '&' :=
        fun hc => (mem_writeParameter hp hc).imp_right (.imp_right .inl)
      by_cases hnil : ps = []
      · rw [hnil, List.map_singleton, List.intercalate_singleton] at hc
        exact hwrite hc
      · rw [List.map_cons, List.intercalate_cons_of_ne_nil (mt List.map_eq_nil_iff.mp hnil)] at hc
        rcases List.mem_append.mp hc with hc | hc
        · rcases List.mem_append.mp hc with hc | hc
          · exact hwrite hc
          · exact .inr (.inr (.inr (List.mem_singleton.mp hc)))
        · exact ih hps hc

/-! ### The parameters of a query -/

namespace CandidateQuery

/-- The search term, if there is one and it is not empty. -/
def term? (q : CandidateQuery) : Option String := q.search.filter (· ≠ "")

/-- The parameter for a search term. -/
def termValue (term : Option String) : List (String × String) :=
  match term with
  | some t => [("search", t)]
  | none => []

/-- The parameters for an order. -/
def sortValues (sort : Option SortState) : List (String × String) :=
  match sort with
  | some s => [("sort", s.column.name), ("order", s.direction.name)]
  | none => []

/-- The parameters of a query, not encoded: which page and how long, the search term and the order
if there are any. -/
def values (q : CandidateQuery) : List (String × String) :=
  [("page", ofNat q.page.toNat), ("per_page", ofNat q.perPage.toNat)] ++ termValue q.term? ++
    sortValues q.sort

theorem encode_ofNat (n : Nat) : Percent.encode (ofNat n) = natDigits n := by
  have hdigits : (ofNat n).toList = natDigits n := String.toList_ofList
  rw [Percent.encode_of_isPlain, hdigits]
  rw [hdigits]
  exact fun c hc => Percent.isPlain_of_isDigit (isDigit_of_mem_natDigits hc)

theorem encode_column (c : SortColumn) : Percent.encode c.name = c.name.toList :=
  Percent.encode_of_isPlain (show IsName c.name by cases c <;> decide)

theorem encode_direction (d : SortDirection) : Percent.encode d.name = d.name.toList :=
  Percent.encode_of_isPlain (show IsName d.name by cases d <;> decide)

/-- The parameters of a query, encoded. -/
theorem parameters_eq (q : CandidateQuery) :
    q.parameters = q.values.map (fun p => (p.1, Percent.encode p.2)) := by
  rw [parameters, values, List.map_append, List.map_append]
  refine congrArg₂ (· ++ ·) (congrArg₂ (· ++ ·) ?_ ?_) ?_
  · rw [List.map_cons, List.map_singleton, encode_ofNat, encode_ofNat]
  · rw [term?]
    cases q.search with
    | none => rfl
    | some term => by_cases h : term = "" <;> simp [h, termValue, Option.filter]
  · cases q.sort with
    | none => rfl
    | some s => simp [sortValues, encode_column, encode_direction]

theorem queryString_eq (q : CandidateQuery) :
    q.queryString = String.ofList (['&'].intercalate (q.values.map writeParameter)) := by
  rw [queryString, parameters_eq, List.map_map]
  rfl

/-- The names of the parameters, of which those without a value are left out. -/
theorem sublist_names (q : CandidateQuery) :
    (q.values.map Prod.fst).Sublist ["page", "per_page", "search", "sort", "order"] := by
  rw [values]
  cases q.term? <;> cases q.sort <;> simp only [termValue, sortValues] <;>
    exact of_decide_eq_true rfl

theorem isName_of_mem_values {q : CandidateQuery} {p : String × String} (hp : p ∈ q.values) :
    IsName p.1 := by
  have hnames : ∀ name ∈ ["page", "per_page", "search", "sort", "order"], IsName name := by decide
  exact hnames p.1 (q.sublist_names.subset (List.mem_map_of_mem hp))

theorem readParameters?_queryString (q : CandidateQuery) :
    readParameters? q.queryString = some q.values := by
  rw [queryString_eq]
  exact readParameters?_write (List.cons_ne_nil _ _) (fun p hp => isName_of_mem_values hp)

/-! ### What the parameters tell -/

theorem lookup_search (q : CandidateQuery) : q.values.lookup "search" = q.term? := by
  rw [values]
  cases q.term? <;> cases q.sort <;> rfl

theorem lookup_sort (q : CandidateQuery) :
    q.values.lookup "sort" = q.sort.map (·.column.name) := by
  rw [values]
  cases q.term? <;> cases q.sort <;> rfl

theorem lookup_order (q : CandidateQuery) :
    q.values.lookup "order" = q.sort.map (·.direction.name) := by
  rw [values]
  cases q.term? <;> cases q.sort <;> rfl

theorem ofNat_injective {m n : Nat} (h : ofNat m = ofNat n) : m = n := by
  have hvalue := congrArg (Nat.ofDigitChars 10 · 0) (String.ofList_injective h)
  simpa only [ofDigitChars_natDigits] using hvalue

theorem column_of_name : ∀ {c d : SortColumn}, c.name = d.name → c = d := by
  intro c d
  cases c <;> cases d <;> decide

theorem direction_of_name : ∀ {c d : SortDirection}, c.name = d.name → c = d := by
  intro c d
  cases c <;> cases d <;> decide

theorem sort_of_names {o o' : Option SortState}
    (hcolumn : o.map (·.column.name) = o'.map (·.column.name))
    (hdirection : o.map (·.direction.name) = o'.map (·.direction.name)) : o = o' := by
  cases o with
  | none =>
      cases o' with
      | none => rfl
      | some t => cases hcolumn
  | some s =>
      cases o' with
      | none => cases hcolumn
      | some t =>
          obtain ⟨c, d⟩ := s
          obtain ⟨c', d'⟩ := t
          obtain rfl : c = c' := column_of_name (Option.some.inj hcolumn)
          obtain rfl : d = d' := direction_of_name (Option.some.inj hdirection)
          rfl

/-- The parameters of a query tell all of it, but for an empty search term. -/
theorem values_inj {q q' : CandidateQuery} :
    q.values = q'.values ↔
      q.page = q'.page ∧ q.perPage = q'.perPage ∧ q.term? = q'.term? ∧ q.sort = q'.sort := by
  constructor
  · intro h
    have hpage : some (ofNat q.page.toNat) = some (ofNat q'.page.toNat) :=
      congrArg (List.lookup "page") h
    have hperPage : some (ofNat q.perPage.toNat) = some (ofNat q'.perPage.toNat) :=
      congrArg (List.lookup "per_page") h
    have hterm := congrArg (List.lookup "search") h
    have hcolumn := congrArg (List.lookup "sort") h
    have hdirection := congrArg (List.lookup "order") h
    rw [lookup_search, lookup_search] at hterm
    rw [lookup_sort, lookup_sort] at hcolumn
    rw [lookup_order, lookup_order] at hdirection
    exact ⟨UInt32.toNat_inj.mp (ofNat_injective (Option.some.inj hpage)),
      UInt32.toNat_inj.mp (ofNat_injective (Option.some.inj hperPage)), hterm,
      sort_of_names hcolumn hdirection⟩
  · rintro ⟨hpage, hperPage, hterm, hsort⟩
    rw [values, values, hpage, hperPage, hterm, hsort]

/-- **A query string says what the query does.**  Its parameters are the page, its length, the
search term if there is one and it is not empty, and the column and the direction if there is an
order; so queries that differ in any of these have different query strings.  Nothing but marks and
plain characters stands in it, so that nothing ends it; and the parameters before and behind the
search term are the same for every search term. -/
theorem query_read_back (q : CandidateQuery) :
    readParameters? q.queryString = some q.values ∧
      (∀ q' : CandidateQuery, q.queryString = q'.queryString ↔
        q.page = q'.page ∧ q.perPage = q'.perPage ∧ q.term? = q'.term? ∧ q.sort = q'.sort) ∧
      (∀ c ∈ q.queryString.toList, Percent.IsPlain c ∨ c = '%' ∨ c = '=' ∨ c = '&') ∧
      ∃ before after, (∀ p ∈ before ++ after, p.1 ≠ "search") ∧
        ∀ search : Option String,
          readParameters? { q with search := search }.queryString =
            some (before ++ termValue (search.filter (· ≠ "")) ++ after) := by
  refine ⟨readParameters?_queryString q, fun q' => ?_, fun c hc => ?_,
    [("page", ofNat q.page.toNat), ("per_page", ofNat q.perPage.toNat)], sortValues q.sort, ?_,
    fun search => readParameters?_queryString _⟩
  · rw [← values_inj]
    constructor
    · intro h
      have hread := readParameters?_queryString q
      rw [h, readParameters?_queryString] at hread
      exact (Option.some.inj hread).symm
    · intro h
      rw [queryString_eq, queryString_eq, h]
  · rw [queryString_eq, String.toList_ofList] at hc
    exact mem_intercalate_write (fun p hp => isName_of_mem_values hp) hc
  · cases q.sort <;> simp [sortValues]

/-- A search term that looks like the rest of a query string is read back as a search term, and
another page makes another query string. -/
theorem query_with_marks_read_back :
    let q : CandidateQuery := ⟨2, 25, some "a&page=9#+%é", some ⟨.addedAt, .desc⟩⟩
    let values := [("page", "2"), ("per_page", "25"), ("search", "a&page=9#+%é"),
      ("sort", "added_at"), ("order", "desc")]
    q.queryString =
        "page=2&per_page=25&search=a%26page%3D9%23%2B%25%C3%A9&sort=added_at&order=desc" ∧
      readParameters? q.queryString = some values ∧
      q.queryString ≠ { q with page := 9 }.queryString ∧
      '#' ∉ q.queryString.toList := by
  intro q values
  obtain ⟨hread, hinj, hplain, -⟩ := query_read_back q
  have hvalues : q.values = values := by decide
  refine ⟨by decide, hvalues ▸ hread, fun h => ?_, fun hmem => ?_⟩
  · exact absurd ((hinj _).mp h).1 (by decide)
  · exact absurd (hplain '#' hmem) (by decide)

end CandidateQuery

end MediaMonitor
