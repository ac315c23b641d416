import SalesDesk.Proofs.Answer.Asked
import SalesDesk.Proofs.Answer.Formed

/-!
A name that is read off a question is one that records of the ledger have, so that no question is
told that there is no such name.
-/
namespace SalesDesk

open Result

variable {α : Type}

/-- The name is one of the vocabulary, and a record has it. -/
structure Dataset.Holds (d : Dataset α) (column : Column) (name : String) : Prop where
  known : name ∈ d.vocabulary.values column
  record : ∃ row ∈ d.records, row.named column = name
  row : ∃ row ∈ d.table, row.named column = name

section
variable {records : List (Record α)} {metrics : Option (Metrics α)} {d : Dataset α}
  {column : Column} {name : String} {r : Request α}

theorem Dataset.holds_of_mem_values [Figure α] (hd : ofRecords records metrics = .ok d)
    (h : name ∈ d.vocabulary.values column) : d.Holds column name := by
  obtain ⟨hrecords, htable, hvocabulary⟩ := records_of_ofRecords hd
  obtain ⟨-, r, hr, hname⟩ := Vocabulary.exists_of_mem_values (hvocabulary ▸ h)
  refine ⟨h, ⟨r, hrecords ▸ hr, hname⟩, ?_⟩
  -- Only ids may stand differently in the table.
  rw [htable]
  exact ⟨_, List.mem_map_of_mem hr, by cases column <;> exact hname⟩

theorem Dataset.table_ne_nil [Figure α] (hd : ofRecords records metrics = .ok d)
    (h : d.isEmpty = false) : d.table ≠ [] := by
  obtain ⟨hrecords, htable, -⟩ := records_of_ofRecords hd
  rw [isEmpty, hrecords] at h
  simpa [htable, tableOf] using h

namespace Answer

theorem mem_of_nameFor? (h : nameFor? r column = some name) :
    name ∈ r.dataset.vocabulary.values column :=
  Query.mem_of_nameAmong? (Option.eq_some_of_filter_eq_some h)

theorem nameFor?_of_customerMonths? (h : customerMonths? r = some name) :
    nameFor? r .customer = some name := by
  unfold customerMonths? at h
  split at h
  · exact h
  · cases h

theorem nameFor?_of_firstNamed? {kind : EntityKind} (h : firstNamed? r = some (kind, name)) :
    nameFor? r kind.column = some name := by
  obtain ⟨found, -, hfound⟩ := List.exists_of_findSome?_eq_some h
  split at hfound
  · obtain ⟨found, hname, heq⟩ := Option.map_eq_some_iff.mp hfound
    cases heq
    exact hname
  · cases hfound

theorem intentRoute_ne (r : Request α) : intentRoute r ≠ .customer ∧ intentRoute r ≠ .product := by
  unfold intentRoute
  split <;> (try split) <;> exact ⟨nofun, nofun⟩

theorem isGiven_of_route_customer (h : route r = .customer) :
    Query.isGiven r.mentions.names.customer = true := by
  unfold route at h
  split at h
  · rename_i hgiven
    exact (Bool.and_eq_true_iff.mp hgiven).1
  · split at h
    · cases h
    · exact absurd h (intentRoute_ne r).1

theorem isGiven_of_route_product (h : route r = .product) :
    Query.isGiven r.mentions.names.item = true := by
  unfold route at h
  split at h
  · cases h
  · split at h
    · assumption
    · exact absurd h (intentRoute_ne r).2

def NamesHeld (r : Request α) : Prop :=
  ∀ column name, r.mentions.names.get column = some name →
    ∃ row ∈ r.rows, row.named column = name

theorem not_lacks (h : NamesHeld r) (column : Column)
    (hgiven : Query.isGiven (r.mentions.names.get column) = true) : ¬r.Lacks column := by
  intro hlacks
  cases hname : r.mentions.names.get column with
  | none =>
    rw [hname] at hgiven
    cases hgiven
  | some name =>
    obtain ⟨row, hrow, hnamed⟩ := h column name hname
    have hother := List.any_eq_false.mp hlacks row hrow
    exact hother (by simp [hasName, hname, hnamed])

theorem not_unknown (h : NamesHeld r) (stage : Stage) : ¬stage.Unknown r := by
  cases stage with
  | structured =>
    intro hunknown
    change (route r).Unknown r at hunknown
    cases hroute : route r with
    | customer =>
      rw [hroute] at hunknown
      exact not_lacks h .customer (isGiven_of_route_customer hroute) hunknown
    | product =>
      rw [hroute] at hunknown
      exact not_lacks h .item (isGiven_of_route_product hroute) hunknown
    | ranking | comparison | period | clarification | overall | pass =>
      rw [hroute] at hunknown
      exact hunknown
  | _ => exact id

variable [Figure α]

theorem hasData_entitySummary {rows : List (Record α)} (hrows : rows ≠ []) (title note : String)
    (dimension : Option Dimension) (withCustomers : Bool) :
    GivesOnly (entitySummary rows title note dimension withCustomers) (·.kind.hasData = true) := by
  have hsome : rows.isEmpty = false := by simpa using hrows
  rw [entitySummary, hsome]
  exact givesOnly_bind fun _ => givesOnly_ok rfl

theorem hasData_monthWise {rows : List (Record α)} (hrows : rows ≠ []) (title : String)
    (dimension : Option Dimension) :
    GivesOnly (monthWise rows title dimension) (·.kind.hasData = true) := by
  have hsome : rows.isEmpty = false := by simpa using hrows
  rw [monthWise, hsome]
  exact givesOnly_bind fun _ => givesOnly_bind fun _ => givesOnly_ok rfl

theorem hasData_allMonths (hrows : r.rows ≠ []) :
    GivesOnly (allMonths r) (·.kind.hasData = true) := by
  have hsome : r.rows.isEmpty = false := by simpa using hrows
  have hmonths : GivesOnly (breakdown .month r.rows []) (·.kind.hasData = true) := by
    rw [breakdown, hsome]
    exact givesOnly_bind fun _ => givesOnly_ok rfl
  exact hmonths.bind fun _ hfound => givesOnly_ok hfound

/-- Where records have all names of the vocabulary, there is data of every entity. -/
theorem hasData_entities (hrows : r.rows ≠ [])
    (hheld : ∀ column, ∀ name ∈ r.dataset.vocabulary.values column,
      ∃ row ∈ r.rows, row.named column = name) :
    AnswersOnly (·.kind.hasData = true) (entities r) := by
  have hnamed : ∀ column name, nameFor? r column = some name → rowsOf r column name ≠ [] := by
    intro column name hname
    obtain ⟨row, hrow, hheld⟩ := hheld column name (mem_of_nameFor? hname)
    exact List.ne_nil_of_mem (List.mem_filter.mpr ⟨hrow, by simpa using hheld⟩)
  unfold entities
  split
  · rename_i name hmonths
    exact (hasData_monthWise (hnamed _ _ (nameFor?_of_customerMonths? hmonths)) _ _).told
  · refine answersOnly_ite (hasData_allMonths hrows).told (answersOnly_ite answersOnly_none ?_)
    split
    · exact answersOnly_none
    · rename_i kind name hfirst
      exact (hasData_entitySummary (hnamed _ _ (nameFor?_of_firstNamed? hfirst)) _ _ _ _).told

end Answer

open Answer

theorem Request.namesHeld_of_make [Figure α] {query : String} {context : Context}
    (hd : Dataset.ofRecords records metrics = .ok d) (hr : make query d context = .ok r) :
    NamesHeld r := by
  intro column name hname
  obtain ⟨reading, hread, hr⟩ := bind_eq_ok.mp hr
  obtain ⟨count, -, hread⟩ := bind_eq_ok.mp hread
  cases hread
  cases hr
  exact (Dataset.holds_of_mem_values hd (Query.mem_of_get_names hname)).row

/-- Names that are read off a question are known, and records have them. So nobody is told that
there is no such name, and there is data of every entity that is asked about. -/
theorem named_entities_have_data [Figure α] (hd : Dataset.ofRecords records metrics = .ok d)
    (hsome : d.isEmpty = false) (query : String) (context : Context) :
    (∀ column name, (Query.names (Text.lower query) d.vocabulary).get column = some name →
      d.Holds column name) ∧
    (∀ column name, Query.nameAmong? query (d.vocabulary.values column) = some name →
      d.Holds column name) ∧
    (∀ stage result, resolve query d context = .ok (stage, result) → result.kind = .noData →
      ∀ kind name values,
        result.message ≠ (unknownEntity kind name values : Result α).message) ∧
    (∀ r result, Request.make query d context = .ok r → entities r = .ok (some result) →
      result.kind.hasData = true) := by
  refine ⟨fun column name h => Dataset.holds_of_mem_values hd (Query.mem_of_get_names h),
    fun column name h => Dataset.holds_of_mem_values hd (Query.mem_of_nameAmong? h), ?_, ?_⟩
  · intro stage result hresolve hkind kind name values hunknown
    have hformed : GivesOnly (resolve query d context) fun found =>
        found.2.kind = .noData → found.2.SaysNo := by
      apply givesOnly_resolve (P := fun _ result => result.kind = .noData → result.SaysNo)
      · exact fun _ => (rfl : noDataMessage.toList.head? = some 'N')
      · exact nofun
      · intro r hr stage
        constructor
        intro answer hanswer result hresult hkind
        have hformed := (stage.formed_strategy r).of_ok answer hanswer result hresult
        exact hformed.saysNo hkind (not_unknown (Request.namesHeld_of_make hd hr) stage)
    have hno : result.SaysNo := hformed.of_ok _ hresolve hkind
    have hi : (unknownEntity kind name values : Result α).message.toList.head? = some 'I' := by
      simp only [unknownEntity, Result.noData, String.toList_append, List.head?_append]
      rfl
    rw [Result.SaysNo, hunknown, hi] at hno
    exact absurd hno (by decide)
  · intro r result hr hanswer
    obtain ⟨rfl, -⟩ := Request.make_fields hr
    have hdata := hasData_entities (r := r) (Dataset.table_ne_nil hd hsome)
      fun column name hname => (Dataset.holds_of_mem_values hd hname).row
    exact hdata.of_ok _ hanswer result rfl

/-- Steel that is asked about in a month without any. -/
theorem named_entities_have_data_steel : ∃ d r stage result told,
    Dataset.ofRecords (besideSteel "Zen" "Cement" 5 50) none = .ok d ∧ d.isEmpty = false ∧
    d.Holds .item "Steel" ∧
    resolve "steel items in may" d {} = .ok (stage, result) ∧ result.kind = .noData ∧
    (∀ kind name values,
      result.message ≠ (unknownEntity kind name values : Result Float).message) ∧
    Request.make "steel items in may" d {} = .ok r ∧ entities r = .ok (some told) ∧
    told.kind.hasData = true := by
  obtain ⟨d, r, hd, hr, hseen⟩ := Request.exists_of_seen "steel items in may"
    (besideSteel "Zen" "Cement" 5 50)
    (fun r => !r.dataset.isEmpty &&
      (Query.names (Text.lower "steel items in may") r.dataset.vocabulary).item == some "Steel" &&
      ((resolve "steel items in may" r.dataset {}).toOption.any fun found =>
        found.2.kind == .noData) && (entities r).toOption.any Option.isSome) (by decide +kernel)
  obtain ⟨rfl, -⟩ := Request.make_fields hr
  simp only [Bool.and_eq_true, Bool.not_eq_true', beq_iff_eq] at hseen
  obtain ⟨⟨⟨hsome, hitem⟩, hresolve⟩, htold⟩ := hseen
  obtain ⟨⟨stage, result⟩, hresolve, hkind⟩ := exists_of_toOption_any hresolve
  obtain ⟨answer, htold, hanswer⟩ := exists_of_toOption_any htold
  obtain ⟨told, rfl⟩ := Option.isSome_iff_exists.mp hanswer
  obtain ⟨hnames, -, hresult, hentities⟩ :=
    named_entities_have_data hd hsome "steel items in may" {}
  have hkind : result.kind = .noData := eq_of_beq hkind
  exact ⟨_, r, stage, result, told, hd, hsome, hnames .item "Steel" hitem, hresolve, hkind,
    hresult stage result hresolve hkind, hr, htold, hentities r told hr htold⟩

end

end SalesDesk
