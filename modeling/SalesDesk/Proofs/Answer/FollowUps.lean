import SalesDesk.Proofs.Analysis.Ranking
import SalesDesk.Proofs.Answer.Asked
import SalesDesk.Proofs.Answer.Columns
import SalesDesk.Proofs.Answer.Route
import SalesDesk.Proofs.Query.FollowUp

/-!
Follow-ups: a count alone goes on with the ranking of the last answer, and leaves the conversation
where it was.
-/
namespace SalesDesk

variable {α : Type}

namespace Dimension

/-- The groups that stand along a dimension, unless single records do. -/
def grouping? : Dimension → Option Grouping
  | customer => some (.column .customer)
  | product => some (.column .item)
  | stockGroup => some (.column .category)
  | date => some .day
  | transaction | masterId | isSale => none

def recordsOf (d : Dimension) (rows : List (Record α)) : List (Record α) :=
  if d = .isSale then rows.filter (·.isSale) else rows

variable {d : Dimension} {g : Grouping}

/-- A ranking along a dimension is remembered as one along the same dimension. -/
theorem dimension_of_grouping? (h : d.grouping? = some g) : g.dimension = some d := by
  cases d <;> cases h <;> rfl

theorem isKnown_of_grouping? (h : d.grouping? = some g) : g.IsKnown := by
  cases d <;> cases h <;> exact trivial

theorem recordsOf_of_grouping? (h : d.grouping? = some g) (rows : List (Record α)) :
    d.recordsOf rows = rows := by
  cases d <;> first | rfl | cases h

/-- Nothing stands along a dimension only where no record is a sale proper. -/
theorem recordsOf_eq_nil {rows : List (Record α)} (hne : rows ≠ []) :
    d.recordsOf rows = [] ↔ d = .isSale ∧ ∀ row ∈ rows, row.isSale = false := by
  unfold recordsOf
  split
  · simp [*]
  · simp [*]

end Dimension

section
variable [Figure α]

/-- A group in a ranking by revenue. -/
def Group.entry (g : Group α) : Entries (Cell α) :=
  [("label", g.key.cell), ("revenue", .figure g.revenue)]

/-- All that stands along a dimension: groups from the largest revenue down, records from the
largest amount down. -/
def Dimension.ranking (d : Dimension) (rows : List (Record α)) :
    Except Fault (List (Entries (Cell α))) :=
  match d.grouping? with
  | some g => do return (falling Group.revenue (← groups g rows)).map Group.entry
  | none => .ok ((falling Record.amount (d.recordsOf rows)).map Record.entry)

/-- The first few entries of a ranking. An answer without entries has no dimension. -/
def Result.ListsFirst (limit : Nat) (d : Dimension) (rows : List (Record α)) (a : Result α) :
    Prop :=
  ∃ entries, d.ranking rows = .ok entries ∧ a.rows = entries.take limit ∧
    (d.recordsOf rows = [] → a.kind = .noData ∧ a.dimension = none) ∧
    (d.recordsOf rows ≠ [] → a.kind = .table ∧ a.dimension = some d ∧ a.count = some (limit : Int))

theorem upTo_natCast {β : Type} (n : Nat) (xs : List β) : upTo (n : Int) xs = xs.take n := by
  rw [upTo, if_pos (Int.natCast_nonneg n), Int.toNat_natCast]

section
variable {d : Dimension} {g : Grouping} {rows : List (Record α)}

theorem gives_topRecords_listsFirst (hd : d.grouping? = none) (subject : Option String)
    {limit : Nat} (hlimit : Number.isWritable limit = true) :
    Gives (Answer.topRecords subject d limit (d.recordsOf rows)) (·.ListsFirst limit d rows) := by
  have hranking : d.ranking rows =
      .ok ((falling Record.amount (d.recordsOf rows)).map Record.entry) := by
    rw [Dimension.ranking, hd]
  obtain ⟨title, hrecords⟩ := Answer.exists_topRecords_eq hlimit subject d (d.recordsOf rows)
  rw [hrecords]
  refine gives_ok ⟨_, hranking, ?_⟩
  cases hrows : d.recordsOf rows with
  | nil =>
    refine ⟨?_, fun _ => ⟨rfl, rfl⟩, fun hne => absurd rfl hne⟩
    rw [falling, List.mergeSort_nil, List.map_nil, List.take_nil]
    rfl
  | cons first rest =>
    refine ⟨?_, fun hnil => absurd hnil (List.cons_ne_nil _ _), fun _ => ⟨rfl, rfl, rfl⟩⟩
    rw [← List.map_take, ← upTo_natCast]
    rfl

theorem gives_topList_listsFirst (hd : d.grouping? = some g) (hne : rows ≠ [])
    (hids : ∀ r ∈ rows, r.masterId.isCountable = true) (noun : String) {limit : Nat}
    (hlimit : Number.isWritable limit = true) :
    Gives (Answer.topList g noun limit rows) (·.ListsFirst limit d rows) := by
  obtain ⟨found, hfound, -⟩ := gives_groups_of_ids (Dimension.isKnown_of_grouping? hd) hids
  have hranking : d.ranking rows = .ok ((falling Group.revenue found).map Group.entry) := by
    simp only [Dimension.ranking, hd, hfound, ok_bind, pure_eq_ok]
  have hrows : rows.isEmpty = false := by simpa using hne
  have hlist : (upTo (limit : Int) (falling (Group.measured .revenue) found)).map
      (fun g => [("label", g.key.cell), (Measure.revenue.name, g.cell .revenue)]) =
      ((falling Group.revenue found).map Group.entry).take limit := by
    rw [← List.map_take, ← upTo_natCast]
    rfl
  simp only [Answer.topList, topTitle_of_isWritable hlimit, groupRanking,
    RankingStyle.groupTitle, hrows, hfound, ok_bind]
  refine gives_ok ⟨_, hranking, hlist, ?_, fun _ => ⟨rfl, ?_, rfl⟩⟩
  · rw [Dimension.recordsOf_of_grouping? hd]
    exact fun hnil => absurd hnil hne
  · exact Dimension.dimension_of_grouping? hd

theorem gives_topAlong_listsFirst (d : Dimension) (hne : rows ≠ [])
    (hids : d.grouping?.isSome = true → ∀ r ∈ rows, r.masterId.isCountable = true) {limit : Nat}
    (hlimit : Number.isWritable limit = true) :
    Gives (Answer.topAlong d limit rows) (·.ListsFirst limit d rows) := by
  cases d with
  | customer | product | stockGroup | date =>
    exact gives_topList_listsFirst rfl hne (hids rfl) _ hlimit
  | transaction => exact gives_topRecords_listsFirst (d := .transaction) rfl _ hlimit
  | masterId => exact gives_topRecords_listsFirst (d := .masterId) rfl _ hlimit
  | isSale => exact gives_topRecords_listsFirst (d := .isSale) rfl _ hlimit

end

end

/-- Is the conversation about a dimension? -/
structure Context.IsAlong (d : Dimension) (c : Context) : Prop where
  topic : c.topic = some d.topic
  dimension : c.dimension = some d

theorem Context.isAlong_ofDimension (d : Dimension) (count : Option Int) :
    (Context.ofDimension d count).IsAlong d := ⟨rfl, rfl⟩

namespace Request

/-- What is read of a follow-up: its count, and at most that a ranking is asked for. -/
structure Bare (q : FollowUp) (r : Request α) : Prop where
  lower : r.lower = q.text
  stated : r.stated = some (q.count : Int)
  intent : r.reading.intent = if q.verb = "top" then .ranking else .general
  names : r.mentions.names = {}
  measure : r.mentions.measure = .amount
  period : r.mentions.period = none
  periods : r.mentions.periods = []

theorem bare_counting {q : FollowUp} {d : Dataset α} (h : q.IsFree d.vocabulary)
    (context : Context) : (counting q.text d context (some (q.count : Int))).Bare q := by
  have hreads := readsPeriods_counting q.text d context (some (q.count : Int))
  constructor
  · exact q.lower_text
  · rfl
  · rw [intent_counting, q.lower_text, q.intent_text]
  · rw [names_counting, q.lower_text, q.names_text h]
  · rw [measure_counting, q.lower_text, q.measure?_text]
    rfl
  · rw [period_counting, q.lower_text, q.firstPeriod?_text]
  · rw [hreads.periods, counting, q.lower_text, q.periods_text]

namespace Bare

open Answer

variable {q : FollowUp} {r : Request α}

theorem asks_of_foreign (h : r.Bare q) {keywords : List String}
    (hkeywords : ∀ keyword ∈ keywords, FollowUp.isForeign "topshowneed" keyword = true) :
    r.asks keywords = false := by
  rw [asks, h.lower]
  exact q.mentionsAny_of_foreign hkeywords

theorem asks_verb (h : r.Bare q) : r.asks ["top", "need", "show"] = true := by
  rw [asks, h.lower]
  exact q.mentionsAny_verb (q.of_verbs (by decide))

variable [Figure α]

theorem scopedRanking_eq_none (h : r.Bare q) : scopedRanking r = .ok none := by
  have hanytime : ∀ p, (none : Option Period) = some p → p.Tellable := nofun
  have hscope := r.filtered_eq (r.namesIn [.category, .region]) hanytime
  have hsales : r.asks ["sales"] = false := h.asks_of_foreign (by decide)
  have hitems : r.asks ["items"] = false := h.asks_of_foreign (by decide)
  have hcustomer : r.asks ["customer"] = false := h.asks_of_foreign (by decide)
  simp only [scopedRanking, inScope, h.period, hscope, ok_bind, pure_eq_ok, hsales,
    hitems, hcustomer, h.measure]
  -- A count of zero is taken for none, but no keyword says what to rank in either case.
  cases r.mentions.count.filter (· != 0) <;> rfl

theorem structured_eq_none (h : r.Bare q) : structured r = .ok none := by
  have hroute : route r = intentRoute r := by simp [route, h.names, Query.isGiven]
  rw [structured_eq_route, hroute, intentRoute, h.intent]
  by_cases htop : q.verb = "top"
  · have hsingle : singlePeriod? r = none := by rw [singlePeriod?, h.periods]
    have hrank : byRank r = scopedRanking r := by rw [byRank, hsingle]
    rw [if_pos htop]
    exact hrank.trans h.scopedRanking_eq_none
  · rw [if_neg htop]
    rfl

theorem followUp_eq (h : r.Bare q) {dimension : Dimension}
    (hcontext : r.context.IsAlong dimension) : followUp r = do
      let result ← topAlong dimension q.count r.rows
      return some { result with filters := [] } := by
  have hverb := h.asks_verb
  have hother : r.asks ["transaction"] = false := h.asks_of_foreign (by decide)
  have hgrouping : Query.grouping? r.lower = none := by rw [h.lower, q.grouping?_text]
  have hdated : r.dated = .ok ⟨r.rows, []⟩ := by
    rw [dated, filtered, h.period]
    rfl
  simp only [followUp, h.stated, hcontext.topic, hcontext.dimension, hverb, hother, hgrouping,
    hdated, ok_bind]
  rfl

end Bare

end Request

section
variable [Figure α] {records : List (Record α)} {metrics : Option (Metrics α)} {d : Dataset α}
  {dimension : Dimension} {context : Context}

/-- A follow-up is answered along the dimension of the context by the first few of its ranking. -/
theorem resolve_followUp (hd : Dataset.ofRecords records metrics = .ok d) (hne : records ≠ [])
    (hids : dimension.grouping?.isSome = true →
      ∀ row ∈ d.table, row.masterId.isCountable = true)
    (hcontext : context.IsAlong dimension) {q : FollowUp} (hfree : q.IsFree d.vocabulary) :
    Gives (resolve q.text d context) fun answer =>
      answer.1 = .followUp ∧ answer.2.ListsFirst q.count dimension d.table := by
  obtain ⟨hrecords, htable, -⟩ := Dataset.records_of_ofRecords hd
  have hempty : d.isEmpty = false := by
    rw [Dataset.isEmpty, hrecords]
    simpa using hne
  have hrows : d.table ≠ [] := by
    rw [htable]
    simpa [Dataset.tableOf] using hne
  have hbare := Request.bare_counting hfree context
  have hlimit : Number.isWritable (q.count : Int) = true :=
    Query.isWritable_of_count? q.count?_text
  obtain ⟨result, hresult, hlists⟩ := gives_topAlong_listsFirst dimension hrows hids hlimit
  have hfollowUp : Answer.followUp (.counting q.text d context (some (q.count : Int))) =
      .ok (some { result with filters := [] }) := by
    rw [hbare.followUp_eq hcontext]
    change (Answer.topAlong dimension q.count d.table >>= _) = _
    rw [hresult]
    rfl
  refine ⟨(.followUp, { result with filters := [] }), ?_, rfl, hlists⟩
  rw [resolve_eq hempty q.isBlankText_text q.count?_text, Stage.inOrder, Stage.resolveAmong,
    Stage.strategy, hbare.structured_eq_none, ok_bind, Stage.resolveAmong, Stage.strategy,
    hfollowUp]
  rfl

theorem Result.nextContext_of_listsFirst {limit : Nat} {rows : List (Record α)} {a : Result α}
    (h : a.ListsFirst limit dimension rows) (c : Context) :
    (dimension.recordsOf rows = [] → a.nextContext c = c) ∧
      (dimension.recordsOf rows ≠ [] →
        a.nextContext c = .ofDimension dimension (some (limit : Int))) := by
  obtain ⟨-, -, -, hnone, hsome⟩ := h
  constructor
  · intro hnil
    rw [nextContext, (hnone hnil).2]
  · intro hne
    obtain ⟨-, hdimension, hcount⟩ := hsome hne
    rw [nextContext, hdimension, hcount]

namespace FollowUp

/-- The context after a follow-up. -/
def turn (d : Dataset α) (context : Context) (q : FollowUp) : Except Fault Context := do
  let (_, result) ← resolve q.text d context
  return result.nextContext context

theorem gives_turn (hd : Dataset.ofRecords records metrics = .ok d) (hne : records ≠ [])
    (hids : dimension.grouping?.isSome = true →
      ∀ row ∈ d.table, row.masterId.isCountable = true)
    (hcontext : context.IsAlong dimension) {q : FollowUp} (hfree : q.IsFree d.vocabulary) :
    Gives (turn d context q) (·.IsAlong dimension) := by
  apply (resolve_followUp hd hne hids hcontext hfree).bind
  intro answer hanswer
  obtain ⟨hnone, hsome⟩ := Result.nextContext_of_listsFirst hanswer.2 context
  by_cases hrecords : dimension.recordsOf d.table = []
  · exact gives_ok ((hnone hrecords).symm ▸ hcontext)
  · exact gives_ok ((hsome hrecords).symm ▸ Context.isAlong_ofDimension dimension _)

theorem gives_turns (hd : Dataset.ofRecords records metrics = .ok d) (hne : records ≠ [])
    (hids : dimension.grouping?.isSome = true →
      ∀ row ∈ d.table, row.masterId.isCountable = true)
    (hcontext : context.IsAlong dimension) {qs : List FollowUp}
    (hfree : ∀ q ∈ qs, q.IsFree d.vocabulary) :
    Gives (qs.foldlM (turn d) context) (·.IsAlong dimension) := by
  induction qs generalizing context with
  | nil => exact gives_ok hcontext
  | cons q rest ih =>
    obtain ⟨hq, hrest⟩ := List.forall_mem_cons.mp hfree
    rw [List.foldlM_cons]
    apply (gives_turn hd hne hids hcontext hq).bind
    intro next hnext
    exact ih hnext hrest

end FollowUp

/-- Follow-ups go along the dimension of the context, each with the first few entries of its
ranking, and none of them leaves it. -/
theorem followUps_keep_dimension (hd : Dataset.ofRecords records metrics = .ok d)
    (hne : records ≠ []) (hcontext : context.IsAlong dimension)
    (hids : dimension.grouping?.isSome = true → metrics.isSome = true →
      ∀ row ∈ d.table, row.masterId.isCountable = true) :
    (∀ q : FollowUp, q.IsFree d.vocabulary → ∃ entries result,
      dimension.ranking d.table = .ok entries ∧
      resolve q.text d context = .ok (.followUp, result) ∧
      result.rows = entries.take q.count ∧
      ((dimension = .isSale ∧ ∀ row ∈ d.table, row.isSale = false) →
        result.kind = .noData ∧ result.nextContext context = context) ∧
      (¬(dimension = .isSale ∧ ∀ row ∈ d.table, row.isSale = false) →
        result.kind = .table ∧
          result.nextContext context = .ofDimension dimension (some (q.count : Int)))) ∧
    ∀ qs : List FollowUp, (∀ q ∈ qs, q.IsFree d.vocabulary) →
      ∃ after, qs.foldlM (FollowUp.turn d) context = .ok after ∧ after.IsAlong dimension := by
  have hids' : dimension.grouping?.isSome = true →
      ∀ row ∈ d.table, row.masterId.isCountable = true := by
    intro hgroups
    cases metrics with
    | some _ => exact hids hgroups rfl
    | none => exact Dataset.isCountable_of_ofRecords hd
  have hrows : d.table ≠ [] := by
    rw [(Dataset.records_of_ofRecords hd).2.1]
    simpa [Dataset.tableOf] using hne
  refine ⟨fun q hfree => ?_, fun qs hfree => FollowUp.gives_turns hd hne hids' hcontext hfree⟩
  obtain ⟨⟨stage, result⟩, hresult, rfl, hlists⟩ :=
    resolve_followUp hd hne hids' hcontext hfree
  obtain ⟨hsame, hnext⟩ := Result.nextContext_of_listsFirst hlists context
  obtain ⟨entries, hentries, hfirst, hnone, hsome⟩ := hlists
  rw [Dimension.recordsOf_eq_nil hrows] at hsame hnone
  rw [Ne, Dimension.recordsOf_eq_nil hrows] at hnext hsome
  exact ⟨entries, result, hentries, hresult, hfirst, fun h => ⟨(hnone h).1, hsame h⟩,
    fun h => ⟨(hsome h).1, hnext h⟩⟩

end

def topFive : FollowUp where
  verb := "top"
  digits := ['5']
  verb_mem := by decide
  digits_ne_nil := by decide
  all_isDigit := by decide
  length_le := by decide
  isYear_digits := by decide

def aboutCustomers : Context := .ofDimension .customer (some 3)

theorem followUps_keep_dimension_customer : ∃ d,
    Dataset.ofRecords (besideSteel "Zen" "Steel" 4 50) none = .ok d ∧
    besideSteel "Zen" "Steel" 4 50 ≠ [] ∧ aboutCustomers.IsAlong .customer ∧
    (Dimension.customer.grouping?.isSome = true → (none : Option (Metrics Float)).isSome = true →
      ∀ row ∈ d.table, row.masterId.isCountable = true) ∧
    topFive.IsFree d.vocabulary ∧
    (∃ entries result, Dimension.customer.ranking d.table = .ok entries ∧
      resolve "top 5" d aboutCustomers = .ok (.followUp, result) ∧
      result.rows = entries.take 5 ∧ result.kind = .table ∧
      result.nextContext aboutCustomers = .ofDimension .customer (some 5)) ∧
    ∃ after, [topFive, topFive].foldlM (FollowUp.turn d) aboutCustomers = .ok after ∧
      after.IsAlong .customer := by
  obtain ⟨d, -, hd, -, -⟩ := Request.exists_of_seen "" (besideSteel "Zen" "Steel" 4 50)
    (fun _ => true) (by decide +kernel)
  have hne : besideSteel "Zen" "Steel" 4 50 ≠ [] := List.cons_ne_nil _ _
  have halong : aboutCustomers.IsAlong .customer := Context.isAlong_ofDimension .customer _
  have hids : Dimension.customer.grouping?.isSome = true →
      (none : Option (Metrics Float)).isSome = true →
      ∀ row ∈ d.table, row.masterId.isCountable = true := fun _ => nofun
  have hfree : topFive.IsFree d.vocabulary := by
    rw [(Dataset.records_of_ofRecords hd).2.2]
    intro column
    cases column <;> decide +kernel
  obtain ⟨hone, hmany⟩ := followUps_keep_dimension hd hne halong hids
  obtain ⟨entries, result, hentries, hresult, hfirst, -, hnext⟩ := hone topFive hfree
  obtain ⟨hkind, hcontext⟩ := hnext nofun
  refine ⟨d, hd, hne, halong, hids, hfree,
    ⟨entries, result, hentries, hresult, hfirst, hkind, hcontext⟩, hmany _ fun q hq => ?_⟩
  rcases List.mem_cons.mp hq with rfl | hq
  · exact hfree
  · rw [List.mem_singleton.mp hq]
    exact hfree

def listSales : List (Record Float) :=
  (besideSteel "Zen" "Steel" 4 50).map fun r => { r with masterId := .list [] }

/-- The ledger of sales whose ids are lists, with key figures that are given. -/
def listLedger : Dataset Float where
  records := listSales
  table := Dataset.tableOf listSales
  vocabulary := Vocabulary.ofRecords listSales
  metrics := .empty

/-- Ids that are lists cannot be told apart, so that a follow-up about customers fails. -/
theorem followUp_fails_for_lists : Dataset.ofRecords listSales (some .empty) = .ok listLedger ∧
    listSales ≠ [] ∧ aboutCustomers.IsAlong .customer ∧ topFive.IsFree listLedger.vocabulary ∧
    ∀ answer, resolve topFive.text listLedger aboutCustomers ≠ .ok answer := by
  refine ⟨rfl, List.cons_ne_nil _ _, Context.isAlong_ofDimension .customer _, ?_, ?_⟩
  · intro column
    cases column <;> decide +kernel
  · intro answer hanswer
    have hfails : (resolve topFive.text listLedger aboutCustomers).toOption.isSome = false := by
      decide +kernel
    rw [hanswer] at hfails
    cases hfails

end SalesDesk
