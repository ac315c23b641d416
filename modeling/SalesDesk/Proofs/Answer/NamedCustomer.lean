import SalesDesk.Proofs.Analysis.Groups
import SalesDesk.Proofs.Answer.Asked
import SalesDesk.Proofs.Answer.Route
import SalesDesk.Proofs.Query.Counts

/-!
What is told of a customer: figures of the customer's records in the stock group, the region and
the period that the question is read to name, be it by words of the customer's own name.
-/
namespace SalesDesk

variable {α : Type}

section
variable [Figure α] {rows : List (Record α)}

namespace Result

/-- The figures of the records, one for each of revenue, orders, quantity and transactions. -/
def Summarises (rows : List (Record α)) (a : Result α) : Prop :=
  ∃ orders, orderCount rows = .ok orders ∧ a.kind = .summary ∧ a.totals = [
    ("revenue", .figure (revenueOf rows)), ("orders", .count orders),
    ("quantity", .figure (quantityOf rows)), ("transactions", .count rows.length)]

/-- The figures of the records, with a section of their months after them if these are wanted. -/
def AccountsFor (monthWise : Bool) (rows : List (Record α)) (a : Result α) : Prop :=
  if monthWise then
    a.kind = .composite ∧ ∃ all monthly, a.sections = [all, monthly] ∧ all.Summarises rows
  else a.Summarises rows

end Result

theorem gives_entitySummary_of_ids (hne : rows ≠ [])
    (hids : ∀ r ∈ rows, r.masterId.isCountable = true) (title note : String)
    (dimension : Option Dimension) :
    Gives (entitySummary rows title note dimension false) (·.Summarises rows) := by
  obtain ⟨orders, horders, -⟩ := gives_orderCount_of_ids hids
  have hrows : rows.isEmpty = false := by simpa using hne
  have htotals : Gives (totals rows [.revenue, .orders, .quantity, .transactions])
      (· = [("revenue", .figure (revenueOf rows)), ("orders", .count orders),
        ("quantity", .figure (quantityOf rows)), ("transactions", .count rows.length)]) :=
    ⟨_, by simp [totals, Total.cell, Total.name, horders], rfl⟩
  simp only [entitySummary, hrows]
  apply htotals.map
  rintro _ rfl
  exact ⟨orders, horders, rfl, rfl⟩

theorem gives_monthWise_of_ids (hne : rows ≠ [])
    (hids : ∀ r ∈ rows, r.masterId.isCountable = true) (title : String)
    (dimension : Option Dimension) :
    Gives (monthWise rows title dimension) (·.AccountsFor true rows) := by
  have hrows : rows.isEmpty = false := by simpa using hne
  have hmonthly : Gives (breakdown .month rows []) fun _ => True := by
    simp only [breakdown, hrows]
    exact (gives_groups_of_ids Grouping.isKnown_month hids).map fun _ _ => trivial
  simp only [monthWise, hrows]
  apply (gives_entitySummary_of_ids hne hids _ _ _).bind
  intro all hall
  apply hmonthly.map
  intro monthly _
  exact ⟨rfl, all, monthly, rfl, hall⟩

end

namespace Answer

theorem kind_noDataFor (subject operation : String) (all : List (Record α)) :
    (noDataFor subject operation all).kind = .noData := by
  unfold noDataFor
  split <;> rfl

section
variable [Figure α] {r : Request α} {name : String}

def inScopeOf (r : Request α) (column : Column) (name : String) : List (Record α) :=
  (r.rows.filter (Filter.accepts (r.namesIn [.category, .region]) r.mentions.period)).filter
    (hasName column (some name))

/-- The given records are found, or there are none of them. -/
def EntityRows.Holds (rows : List (Record α)) : EntityRows α → Prop
  | .found scope => scope.rows = rows ∧ rows ≠ []
  | .missing answer => answer.kind = .noData ∧ rows = []

theorem entityRows_holds (hr : r.ReadsPeriods) (column : Column) (name kind : String) :
    Gives (entityRows r column (some name) kind) (EntityRows.Holds (inScopeOf r column name)) := by
  have hscope := r.filtered_eq (r.namesIn [.category, .region]) fun p => hr.tellable (p := p)
  simp only [entityRows, Request.inScope, hscope, ok_bind, pure_eq_ok]
  rw [← inScopeOf]
  split
  · rename_i hsome
    exact gives_ok ⟨rfl, by simpa using hsome⟩
  · rename_i hnone
    have hnil : inScopeOf r column name = [] := by simpa using hnone
    split
    · exact gives_ok ⟨rfl, hnil⟩
    · exact gives_ok ⟨kind_noDataFor _ _ _, hnil⟩

/-- A named customer is told of where information is asked for. -/
theorem gives_customer (hr : r.ReadsPeriods) (hname : r.mentions.names.customer = some name)
    (hintent : r.reading.intent = .information)
    (hids : ∀ row ∈ inScopeOf r .customer name, row.masterId.isCountable = true) :
    Gives (customer r) fun answer => ∃ result, answer = some result ∧
      (inScopeOf r .customer name = [] → result.kind = .noData) ∧
      (inScopeOf r .customer name ≠ [] →
        result.AccountsFor r.reading.modifiers.monthWise (inScopeOf r .customer name)) := by
  obtain ⟨found, hrows, hfound⟩ := entityRows_holds hr .customer name "customers"
  simp only [customer, hname, hintent, hrows, ok_bind]
  cases found with
  | missing answer =>
    refine ⟨some answer, ?_, answer, rfl, fun _ => hfound.1, fun hne => absurd hfound.2 hne⟩
    cases r.reading.modifiers.monthWise <;> rfl
  | found scope =>
    obtain ⟨hscope, hne⟩ := hfound
    rw [← hscope] at hids hne ⊢
    cases r.reading.modifiers.monthWise with
    | true =>
      apply (gives_monthWise_of_ids hne hids _ _).map
      intro result hresult
      exact ⟨result, rfl, fun hnil => absurd hnil hne, fun _ => hresult⟩
    | false =>
      apply (gives_entitySummary_of_ids hne hids _ _ _).map
      intro result hresult
      exact ⟨_, rfl, fun hnil => absurd hnil hne, fun _ => hresult⟩

end

/-- A question for all that is known of a name. -/
def tellMeAbout (name : String) : String := "tell me about " ++ name

theorem toList_tellMeAbout (name : String) :
    (tellMeAbout name).toList = "tell me about".toList ++ ' ' :: name.toList := by
  rw [tellMeAbout, String.toList_append]
  rfl

theorem lower_tellMeAbout (name : String) :
    Text.lower (tellMeAbout name) = tellMeAbout (Text.lower name) :=
  Text.lower_append (by decide) (by decide) name

theorem isBlankText_tellMeAbout (name : String) : Text.isBlankText (tellMeAbout name) = false := by
  rw [Text.isBlankText, toList_tellMeAbout]
  rfl

theorem runs_isDigit_tellMeAbout (name : String) :
    Text.runs Text.isDigit (tellMeAbout name).toList = Text.runs Text.isDigit name.toList := by
  rw [toList_tellMeAbout, Text.runs_append_cons (by decide), Text.runs_eq_nil (by decide),
    List.nil_append]

theorem intent_tellMeAbout {lower : String}
    (h : Text.mentionsAny lower Query.comparisonWords = false) :
    Query.intent (tellMeAbout lower) = .information := by
  have hcompare : Text.mentionsAny (tellMeAbout lower) Query.comparisonWords = false := by
    apply List.any_eq_false.mpr
    intro keyword hkeyword
    -- No comparison begins with a letter of the words before the name, so none begins there.
    have hfirst : ∀ keyword ∈ Query.comparisonWords,
        keyword.toList.head?.any (!"tell me about ".toList.contains ·) = true := by decide
    rw [tellMeAbout, Text.mentions_append (by decide) (hfirst keyword hkeyword)]
    exact List.any_eq_false.mp h keyword hkeyword
  have htell : Text.mentionsAny (tellMeAbout lower) ["what is", "show me", "tell me"] = true := by
    have hmention : Text.mentions (tellMeAbout lower) "tell me" = true := by
      rw [Text.mentions, tellMeAbout, String.toList_append]
      rfl
    simp [Text.mentionsAny, hmention]
  rw [Query.intent, Query.intentRules, Query.firstRule_cons_of_absent hcompare,
    Query.firstRule_cons_of_mentioned htell]
  rfl

theorem isNamed_tellMeAbout {name : String} (hfiller : Text.lower name ∉ Query.fillerWords)
    (hne : name ≠ "") : Query.isNamed (tellMeAbout (Text.lower name)) name = true := by
  have hblank : Text.isWord ' ' = false := by decide
  have hhere : Text.phraseHere (Text.lower name).toList (some ' ') (Text.lower name).toList =
      true := by simp [Text.phraseHere, Text.wordAt, hblank]
  have hphrase : Text.hasPhrase (tellMeAbout (Text.lower name)) (Text.lower name) = true := by
    rw [Text.hasPhrase, toList_tellMeAbout, Text.anyPlace_of_after hhere]
    simpa using Text.lower_ne_empty hne
  simp [Query.isNamed, hphrase, hfiller]

/-- The stock group and the region that a text in small letters names as a whole. -/
def groupsNamed (lower : String) (v : Vocabulary) : List (Column × String) :=
  [Column.category, .region].filterMap fun column =>
    (Query.exactMatch? lower (v.values column)).map fun name => (column, name)

/-- The records that the question for a customer is about: those of the customer in the stock
group, the region and the period that the words of the question name. -/
def toldRows (d : Dataset α) (name : String) : List (Record α) :=
  let lower := Text.lower (tellMeAbout name)
  d.table.filter fun row => row.customer == name &&
    Filter.accepts (groupsNamed lower d.vocabulary) (Query.firstPeriod? lower) row

/-- The names by which the answer about a customer is narrowed. -/
theorem filter_names_of_exactMatch? {lower : String} {v : Vocabulary} (column : Column)
    {name : String} (h : Query.exactMatch? lower (v.values column) = some name) :
    ((Query.names lower v).toList.filter fun n => [Column.category, .region].contains n.1) =
      groupsNamed lower v := by
  rw [Query.names_of_exactMatch? column h,
    Query.Names.toList_ofColumns fun _ _ => Query.ne_empty_of_exactMatch?, List.filter_filterMap]
  simp only [groupsNamed, Column.all, List.filterMap_cons]
  generalize Query.exactMatch? lower (v.values .customer) = customer
  generalize Query.exactMatch? lower (v.values .item) = item
  generalize Query.exactMatch? lower (v.values .category) = category
  generalize Query.exactMatch? lower (v.values .region) = region
  cases customer <;> cases item <;> cases category <;> cases region <;> rfl

theorem toldRows_of_alone {d : Dataset α} {name : String}
    (hgroups : groupsNamed (Text.lower (tellMeAbout name)) d.vocabulary = [])
    (hperiod : Query.firstPeriod? (Text.lower (tellMeAbout name)) = none) :
    toldRows d name = d.table.filter (·.customer == name) := by
  simp [toldRows, hgroups, hperiod, Filter.accepts]

section
variable {d : Dataset α} {name : String} (context : Context) (count : Option Int)

theorem inScopeOf_counting (h : Query.exactMatch? (Text.lower (tellMeAbout name))
      d.vocabulary.customers = some name) :
    inScopeOf (.counting (tellMeAbout name) d context count) .customer name = toldRows d name := by
  have hcustomer : ∀ row : Record α,
      hasName .customer (some name) row = (row.customer == name) := by
    intro row
    change (name == row.customer) = _
    exact BEq.comm
  rw [inScopeOf, Request.namesIn, Request.names_counting, Request.period_counting,
    filter_names_of_exactMatch? .customer h, List.filter_filter]
  simp only [hcustomer]
  rfl

theorem gives_structured_tellMeAbout [Figure α]
    (hexact : Query.exactMatch? (Text.lower (tellMeAbout name)) d.vocabulary.customers = some name)
    (hcompare : Text.mentionsAny (Text.lower name) Query.comparisonWords = false)
    (hids : ∀ row ∈ toldRows d name, row.masterId.isCountable = true) :
    Gives (structured (.counting (tellMeAbout name) d context count)) fun answer =>
      ∃ result, answer = some result ∧ (toldRows d name = [] → result.kind = .noData) ∧
        (toldRows d name ≠ [] → result.AccountsFor
          (Text.mentionsAny (Text.lower (tellMeAbout name)) ["month", "wise"])
          (toldRows d name)) := by
  have hrows := inScopeOf_counting context count hexact
  have hnames : (Request.counting (tellMeAbout name) d context count).mentions.names.customer =
      some name := by
    rw [Request.names_counting, Query.names_of_exactMatch? .customer hexact]
    exact hexact
  have hintent : (Request.counting (tellMeAbout name) d context count).reading.intent =
      .information := by
    rw [Request.intent_counting, lower_tellMeAbout]
    exact intent_tellMeAbout hcompare
  have hroute : route (Request.counting (tellMeAbout name) d context count) = .customer := by
    have hne := Query.ne_empty_of_exactMatch? hexact
    simp [route, asksOfCustomer, hnames, hintent, Query.isGiven, hne]
  have hcustomer := gives_customer
    (Request.readsPeriods_counting (tellMeAbout name) d context count) hnames hintent
    (hrows ▸ hids)
  rw [hrows, Request.monthWise_counting] at hcustomer
  rw [structured_eq_route, hroute]
  exact hcustomer

end

end Answer

theorem Vocabulary.exists_of_mem_customers {records : List (Record α)} {name : String}
    (h : name ∈ (ofRecords records).customers) :
    name ≠ "" ∧ ∃ r ∈ records, r.customer = name := by
  have hmem : name ∈ (ofRecords records).values .customer := h
  exact exists_of_mem_values hmem

open Answer

/-- A customer is told of by the records in the stock group, the region and the period that the
question is read to name; by all of the customer's records where it names none of these. -/
theorem resolve_tellMeAbout [Figure α] {records : List (Record α)} {metrics : Option (Metrics α)}
    {d : Dataset α} {name : String} (hd : Dataset.ofRecords records metrics = .ok d)
    (hname : name ∈ d.vocabulary.customers) (hfiller : Text.lower name ∉ Query.fillerWords)
    (hcompare : Text.mentionsAny (Text.lower name) Query.comparisonWords = false)
    (hothers : ∀ other ∈ d.vocabulary.customers, other ≠ name →
      Query.isNamed (Text.lower (tellMeAbout name)) other = true → other.length < name.length)
    (hdigits : ∀ run ∈ Text.runs Text.isDigit name.toList, run.length ≤ Number.maxIntegerDigits)
    (hids : metrics.isSome = true → ∀ row ∈ toldRows d name, row.masterId.isCountable = true)
    (context : Context) :
    ∃ result, resolve (tellMeAbout name) d context = .ok (.structured, result) ∧
      (toldRows d name = [] → result.kind = .noData) ∧
      (toldRows d name ≠ [] → result.AccountsFor
        (Text.mentionsAny (Text.lower (tellMeAbout name)) ["month", "wise"]) (toldRows d name)) ∧
      (groupsNamed (Text.lower (tellMeAbout name)) d.vocabulary = [] →
        Query.firstPeriod? (Text.lower (tellMeAbout name)) = none →
        toldRows d name ≠ [] ∧ toldRows d name = d.table.filter (·.customer == name)) := by
  obtain ⟨hrecords, htable, hvocabulary⟩ := Dataset.records_of_ofRecords hd
  obtain ⟨hne, r, hr, hcustomer⟩ := Vocabulary.exists_of_mem_customers (hvocabulary ▸ hname)
  have hids' : ∀ row ∈ toldRows d name, row.masterId.isCountable = true := by
    cases metrics with
    | some _ => exact hids rfl
    | none => exact fun row hrow =>
        Dataset.isCountable_of_ofRecords hd row (List.mem_filter.mp hrow).1
  have hexact : Query.exactMatch? (Text.lower (tellMeAbout name)) d.vocabulary.customers =
      some name := by
    apply Query.exactMatch?_eq_some hname _ hothers
    rw [lower_tellMeAbout]
    exact isNamed_tellMeAbout hfiller hne
  obtain ⟨count, hcount⟩ := Query.exists_count? (runs_isDigit_tellMeAbout name ▸ hdigits)
  have hempty : d.isEmpty = false := by
    rw [Dataset.isEmpty, hrecords]
    simpa using List.ne_nil_of_mem hr
  obtain ⟨answer, hanswer, result, rfl, hnone, htells⟩ :=
    gives_structured_tellMeAbout context count hexact hcompare hids'
  refine ⟨result, ?_, hnone, htells, fun hgroups hperiod => ?_⟩
  · rw [resolve_eq hempty (isBlankText_tellMeAbout name) hcount, Stage.inOrder,
      Stage.resolveAmong, Stage.strategy, hanswer]
    rfl
  · have hall := toldRows_of_alone hgroups hperiod
    refine ⟨?_, hall⟩
    rw [hall, htable]
    apply List.ne_nil_of_mem
    exact List.mem_filter.mpr ⟨List.mem_map_of_mem hr, by simpa using hcustomer⟩

theorem resolve_tellMeAbout_acme : ∃ d result,
    Dataset.ofRecords (besideSteel "Acme" "Cement" 5 50) none = .ok d ∧
    "Acme" ∈ d.vocabulary.customers ∧ Text.lower "Acme" ∉ Query.fillerWords ∧
    Text.mentionsAny (Text.lower "Acme") Query.comparisonWords = false ∧
    (∀ other ∈ d.vocabulary.customers, other ≠ "Acme" →
      Query.isNamed (Text.lower (tellMeAbout "Acme")) other = true →
      other.length < "Acme".length) ∧
    (∀ run ∈ Text.runs Text.isDigit "Acme".toList, run.length ≤ Number.maxIntegerDigits) ∧
    resolve (tellMeAbout "Acme") d {} = .ok (.structured, result) ∧
    result.Summarises (d.table.filter (·.customer == "Acme")) := by
  obtain ⟨d, -, hd, -, -⟩ := Request.exists_of_seen "" (besideSteel "Acme" "Cement" 5 50)
    (fun _ => true) (by decide +kernel)
  have hcustomers : d.vocabulary.customers = ["Acme"] := by
    rw [(Dataset.records_of_ofRecords hd).2.2]
    decide +kernel
  have hname : "Acme" ∈ d.vocabulary.customers := by
    rw [hcustomers]
    exact List.mem_cons_self
  have hfiller : Text.lower "Acme" ∉ Query.fillerWords := by decide +kernel
  have hcompare : Text.mentionsAny (Text.lower "Acme") Query.comparisonWords = false := by
    decide +kernel
  have hothers : ∀ other ∈ d.vocabulary.customers, other ≠ "Acme" →
      Query.isNamed (Text.lower (tellMeAbout "Acme")) other = true →
      other.length < "Acme".length := by
    rw [hcustomers]
    exact fun other hother hne => absurd (List.mem_singleton.mp hother) hne
  have hdigits : ∀ run ∈ Text.runs Text.isDigit "Acme".toList,
      run.length ≤ Number.maxIntegerDigits := by decide +kernel
  have hgroups : groupsNamed (Text.lower (tellMeAbout "Acme")) d.vocabulary = [] := by
    rw [(Dataset.records_of_ofRecords hd).2.2]
    decide +kernel
  have hperiod : Query.firstPeriod? (Text.lower (tellMeAbout "Acme")) = none := by decide +kernel
  obtain ⟨result, hresult, -, htells, hall⟩ := resolve_tellMeAbout hd hname hfiller hcompare
    hothers hdigits nofun {}
  obtain ⟨hne, heq⟩ := hall hgroups hperiod
  have hmonthWise : Text.mentionsAny (Text.lower (tellMeAbout "Acme")) ["month", "wise"] =
      false := by decide +kernel
  have hsummary := htells hne
  rw [hmonthWise, heq] at hsummary
  exact ⟨d, result, hd, hname, hfiller, hcompare, hothers, hdigits, hresult, hsummary⟩

private def findsNoData (query : String) (d : Dataset Float) : Bool :=
  match resolve query d {} with
  | .ok (_, a) => a.kind == .noData
  | .error _ => false

private theorem exists_of_findsNoData {query : String} {d : Dataset Float}
    (h : findsNoData query d = true) :
    ∃ stage a, resolve query d {} = .ok (stage, a) ∧ a.kind = .noData := by
  unfold findsNoData at h
  split at h
  · exact ⟨_, _, ‹_›, eq_of_beq h⟩
  · cases h

/-- A month in the name of a customer is taken for the period of the question: nothing is told of a
customer who bought in another month. -/
theorem resolve_reads_month_in_name : ∃ d stage result,
    Dataset.ofRecords (besideSteel "April Traders" "Steel" 5 50) none = .ok d ∧
    "April Traders" ∈ d.vocabulary.customers ∧
    Text.lower "April Traders" ∉ Query.fillerWords ∧
    Text.mentionsAny (Text.lower "April Traders") Query.comparisonWords = false ∧
    (∀ other ∈ d.vocabulary.customers, other ≠ "April Traders" →
      Query.isNamed (Text.lower (tellMeAbout "April Traders")) other = true →
      other.length < "April Traders".length) ∧
    resolve (tellMeAbout "April Traders") d {} = .ok (stage, result) ∧
    ∀ monthWise,
      ¬result.AccountsFor monthWise (d.table.filter (·.customer == "April Traders")) := by
  obtain ⟨d, r, hd, hr, hseen⟩ := Request.exists_of_seen (tellMeAbout "April Traders")
    (besideSteel "April Traders" "Steel" 5 50)
    (fun r => findsNoData (tellMeAbout "April Traders") r.dataset) (by decide +kernel)
  rw [(Request.make_fields hr).1] at hseen
  obtain ⟨stage, result, hresult, hkind⟩ := exists_of_findsNoData hseen
  have hcustomers : d.vocabulary.customers = ["Acme", "April Traders"] := by
    rw [(Dataset.records_of_ofRecords hd).2.2]
    decide +kernel
  refine ⟨d, stage, result, hd, ?_, by decide +kernel, by decide +kernel, ?_, hresult, ?_⟩
  · rw [hcustomers]
    decide
  · rw [hcustomers]
    decide +kernel
  · intro monthWise htells
    cases monthWise with
    | true => exact absurd (hkind.symm.trans htells.1) (by decide)
    | false =>
      obtain ⟨orders, -, hsummary, -⟩ := htells
      exact absurd (hkind.symm.trans hsummary) (by decide)

end SalesDesk
