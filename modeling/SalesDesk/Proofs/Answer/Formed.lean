import SalesDesk.Proofs.Analysis.Formed
import SalesDesk.Proofs.Answer.Counts
import SalesDesk.Proofs.Answer.Only
import SalesDesk.Proofs.Answer.Route

/-!
How the stages put their answers together. Rankings keep to the count that the question states,
except where two periods or the customers of one period are shown; only where no record has the
name that a question gives is a lack of data told in words of its own.
-/
namespace SalesDesk

open Result

variable {α : Type}

namespace Request

/-- Does a ranking of this limit keep to the count of the question, if it states one? Such a limit
can be written if the count can. -/
structure Allows (r : Request α) (limit : Int) : Prop where
  within : ∀ n : Nat, 1 ≤ n → r.stated = some (n : Int) → r.mentions.count = some (n : Int) →
    0 ≤ limit ∧ limit ≤ n
  writable : r.CountsWritable → Number.isWritable limit = true

theorem allows_one (r : Request α) : r.Allows 1 where
  within n hn _ _ := by omega
  writable _ := Number.isWritable_of_lt_word (by decide)

variable {r : Request α} {limit other : Int}

theorem allows_stated (h : r.stated = some limit) : r.Allows limit where
  within n _ hstated _ := by
    obtain rfl := Option.some.inj (h.symm.trans hstated)
    omega
  writable hcounts := hcounts.stated limit h

theorem allows_getD (r : Request α) (hother : other.natAbs < 0x8000000000000000) :
    r.Allows (r.stated.getD other) where
  within n _ hstated _ := by
    rw [hstated, Option.getD_some]
    omega
  writable hcounts := hcounts.isWritable_getD (Number.isWritable_of_lt_word hother)

theorem allows_count (h : r.mentions.count.filter (· != 0) = some limit) : r.Allows limit where
  within n _ _ hcount := by
    obtain rfl := Option.some.inj ((Option.eq_some_of_filter_eq_some h).symm.trans hcount)
    omega
  writable hcounts := hcounts.isWritable_count h

theorem allows_countOr (r : Request α) (hother : other.natAbs < 0x8000000000000000) :
    r.Allows (r.countOr other) where
  within n hn _ hcount := by
    have hgiven : r.countOr other = n := by
      have hne : ((n : Int) != 0) = true := by simpa using Nat.ne_of_gt hn
      simp only [countOr, hcount, Option.filter, hne, if_true, Option.getD_some]
    rw [hgiven]
    omega
  writable hcounts := hcounts.isWritable_countOr (Number.isWritable_of_lt_word hother)

def Lacks (r : Request α) (column : Column) : Prop :=
  r.rows.any (Answer.hasName column (r.mentions.names.get column)) = false

end Request

namespace Answer

def Route.Limits (r : Request α) : Route → Int → Prop
  | comparison => (· = rankingDefault)
  | period => (· = periodLeadersLimit)
  | _ => r.Allows

/-- Can the route only tell that no record has the name? -/
def Route.Unknown (r : Request α) : Route → Prop
  | customer => r.Lacks .customer
  | product => r.Lacks .item
  | _ => False

section
variable {limits : Int → Prop} {unknown : Prop}

theorem formed_told {result : Result α} (hkind : result.kind.hasData = true)
    (hranked : result.ranked = false) (hsections : result.sections = [])
    (hcount : ∀ n, result.count = some n → n = 1) :
    AnswersOnly (Formed limits unknown) (.ok (some result)) :=
  answersOnly_some (formed_data hkind hranked hsections hcount)

variable (r : Request α)

theorem formed_overall : AnswersOnly (Formed limits unknown) (overall r) := by
  unfold overall
  exact answersOnly_bind fun span => formed_told rfl rfl rfl nofun

theorem formed_summary : AnswersOnly (Formed limits unknown) (summary r) :=
  answersOnly_ite answersOnly_none (formed_told rfl rfl rfl nofun)

theorem formed_compareHint : AnswersOnly (Formed limits unknown) (compareHint r) := by
  unfold compareHint
  split
  · exact answersOnly_some (formed_words _ _)
  · exact answersOnly_none

theorem formed_help : AnswersOnly (Formed limits unknown) (help r) := by
  unfold help
  split
  · exact answersOnly_some (formed_words _ _)
  · exact answersOnly_none

end

section
variable [Figure α] {limits : Int → Prop} (r : Request α)

/-- That there are no records of a name is told in the usual words, unless none has it. -/
theorem formed_entityRows (column : Column) (kind : String) :
    GivesOnly (entityRows r column (r.mentions.names.get column) kind) fun found =>
      ∀ answer, found = .missing answer → answer.Formed limits (r.Lacks column) := by
  unfold entityRows
  apply givesOnly_bind
  intro scope
  refine givesOnly_ite (fun _ => givesOnly_ok nofun) fun _ =>
    givesOnly_ite (fun hlacks => givesOnly_ok ?_) fun _ => givesOnly_ok ?_
  · rintro answer ⟨⟩
    exact ⟨fun _ => rfl, fun _ => .inl (by simpa [Request.Lacks] using hlacks), nofun, nofun,
      nofun⟩
  · rintro answer ⟨⟩
    exact formed_noDataFor _ _ _

theorem formed_customer :
    AnswersOnly (Formed limits (r.Lacks .customer)) (customer r) := by
  unfold customer
  refine answersOnly_ite ?_ (answersOnly_ite ?_ answersOnly_none)
  · apply (formed_entityRows r .customer _).bind
    intro found hfound
    cases found with
    | missing answer => exact answersOnly_some (hfound answer rfl)
    | found scope => exact (givesFormed_monthWise _ _ _).told
  · apply (formed_entityRows r .customer _).bind
    intro found hfound
    cases found with
    | missing answer => exact answersOnly_some (hfound answer rfl)
    | found scope =>
      exact (givesFormed_entitySummary _ _ _ _ _).answered fun _ h =>
        h.relabel rfl rfl rfl rfl rfl rfl rfl

theorem formed_product : AnswersOnly (Formed r.Allows (r.Lacks .item)) (product r) := by
  unfold product
  apply (formed_entityRows r .item _).bind
  intro found hfound
  cases found with
  | missing answer => exact answersOnly_some (hfound answer rfl)
  | found scope =>
    refine answersOnly_ite (givesFormed_topCustomersFor _ _ (r.allows_countOr (by decide))).told ?_
    exact (givesFormed_entitySummary _ _ _ _ _).answered fun _ h =>
      h.relabel rfl rfl rfl rfl rfl rfl rfl

theorem givesFormed_largestSales {limits : Int → Prop} {limit : Int} (h : limits limit)
    {unknown : Prop} (rows : List (Record α)) :
    GivesOnly (largestSales limit rows) (Formed limits unknown) := by
  unfold largestSales
  exact givesOnly_bind fun title =>
    givesOnly_ok (formed_topTransactions rows { limit, title := some title } h _)

variable {unknown : Prop}

theorem formed_scopedRanking : AnswersOnly (Formed r.Allows unknown) (scopedRanking r) := by
  unfold scopedRanking
  apply answersOnly_bind
  intro scope
  have hgroups : ∀ (column : Column) (measure : Measure) (style : RankingStyle),
      r.Allows style.limit → AnswersOnly (Formed r.Allows unknown) (do
        return some (← groupRanking (.column column) measure scope.rows style scope.labels)) :=
    fun column measure style hlimit => (givesFormed_groupRanking _ _ _ _ hlimit _).told
  have htitled : ∀ (measure : Measure) (subject : String), AnswersOnly (Formed r.Allows unknown) (do
      let title ← topTitle (r.countOr rankingDefault) subject
      return some (← groupRanking (.column .item) measure scope.rows
        { limit := r.countOr rankingDefault, title } scope.labels)) := fun _ _ =>
    answersOnly_bind fun title => hgroups _ _ _ (r.allows_countOr (by decide))
  refine answersOnly_ite ?_ (answersOnly_ite (htitled _ _) (answersOnly_ite (htitled _ _) ?_))
  · exact (givesFormed_largestSales (r.allows_countOr (by decide)) scope.rows).answered fun _ h =>
      h.relabel rfl rfl rfl rfl rfl rfl rfl
  · split
    · exact answersOnly_none
    · rename_i hcount
      exact answersOnly_ite (hgroups _ _ _ (Request.allows_count hcount)) answersOnly_none

theorem formed_byRank : AnswersOnly (Formed r.Allows unknown) (byRank r) := by
  unfold byRank
  split
  · exact formed_scopedRanking r
  · refine answersOnly_ite ?_ (answersOnly_ite ?_ (formed_scopedRanking r))
    · exact answersOnly_bind fun scope =>
        (givesFormed_topDates _ _ (r.allows_countOr (by decide))).told
    · apply answersOnly_bind
      intro scope
      exact answersOnly_bind fun label => answersOnly_bind fun title =>
        (givesFormed_topGroupsIn _ _ _ (r.allows_countOr (by decide)) _).told

theorem formed_byComparison :
    AnswersOnly (Formed (· = rankingDefault) unknown) (byComparison r) := by
  unfold byComparison
  split
  · refine answersOnly_bind fun scope =>
      (givesFormed_comparisonWithLeaders scope.rows _ _ ?_).told
    rfl
  · exact answersOnly_error _

theorem formed_byPeriod :
    AnswersOnly (Formed (· = periodLeadersLimit) unknown) (byPeriod r) := by
  unfold byPeriod
  split
  · exact answersOnly_error _
  · refine answersOnly_bind fun scope => answersOnly_bind fun label =>
      (givesFormed_topGroupsIn scope.rows _ _ ?_ _).told
    rfl

theorem formed_clarification : AnswersOnly (Formed r.Allows unknown) (clarification r) := by
  unfold clarification
  refine answersOnly_ite ?_ (answersOnly_some (formed_words _ _))
  exact answersOnly_bind fun scope =>
    (givesFormed_largestSales (r.allows_countOr (by decide)) scope.rows).told

theorem formed_route (route : Route) :
    AnswersOnly (Formed (route.Limits r) (route.Unknown r)) (route.strategy r) := by
  cases route with
  | customer => exact formed_customer r
  | product => exact formed_product r
  | ranking => exact formed_byRank r
  | comparison => exact formed_byComparison r
  | period => exact formed_byPeriod r
  | clarification => exact formed_clarification r
  | overall => exact formed_overall r
  | pass => exact answersOnly_none

theorem formed_structured :
    AnswersOnly (Formed ((route r).Limits r) ((route r).Unknown r)) (structured r) := by
  rw [structured_eq_route]
  exact formed_route r (route r)

theorem givesFormed_topList (grouping : Grouping) (noun : String) {limit : Int} (h : limits limit)
    (rows : List (Record α)) :
    GivesOnly (topList grouping noun limit rows) (Formed limits unknown) := by
  unfold topList
  exact givesOnly_bind fun title => givesFormed_groupRanking rows grouping _ _ h _

theorem givesFormed_topRecords (subject : Option String) (dimension : Dimension) {limit : Int}
    (h : limits limit) (rows : List (Record α)) :
    GivesOnly (topRecords subject dimension limit rows) (Formed limits unknown) := by
  unfold topRecords
  exact givesOnly_bind fun title => givesFormed_transactionRanking rows _ h _

theorem formed_namedTop? {limit : Int} (h : limits limit) (rows : List (Record α)) :
    AnswersOnly (Formed limits unknown) (namedTop? r limit rows) := by
  unfold namedTop?
  exact answersOnly_ite (givesFormed_topRecords _ _ h _).told <|
    answersOnly_ite (givesFormed_topList _ _ h _).told <|
    answersOnly_ite (givesFormed_topList _ _ h _).told <|
    answersOnly_ite (givesFormed_topRecords _ _ h _).told answersOnly_none

theorem formed_complexTop : AnswersOnly (Formed r.Allows unknown) (complexTop r) := by
  unfold complexTop
  split
  · exact answersOnly_none
  · rename_i limit hstated
    refine answersOnly_ite answersOnly_none (answersOnly_bind fun scope => ?_)
    apply (formed_namedTop? r (Request.allows_stated hstated) scope.rows).bind
    intro answer hanswer
    cases answer with
    | none => exact answersOnly_none
    | some result =>
      exact answersOnly_some ((hanswer result rfl).relabel rfl rfl rfl rfl rfl rfl rfl)

theorem givesFormed_topAlong (dimension : Dimension) {limit : Int} (h : limits limit)
    (rows : List (Record α)) :
    GivesOnly (topAlong dimension limit rows) (Formed limits unknown) := by
  cases dimension with
  | stockGroup | customer | product | date => exact givesFormed_topList _ _ h _
  | transaction | masterId | isSale => exact givesFormed_topRecords _ _ h _

theorem formed_followUp : AnswersOnly (Formed r.Allows unknown) (followUp r) := by
  unfold followUp
  split
  · rename_i limit _ dimension hstated _ _
    refine answersOnly_ite answersOnly_none (answersOnly_ite answersOnly_none ?_)
    apply answersOnly_bind
    intro scope
    exact (givesFormed_topAlong dimension (Request.allows_stated hstated) _).answered fun _ h =>
      h.relabel rfl rfl rfl rfl rfl rfl rfl
  · exact answersOnly_none

theorem givesFormed_figures (operation : String) (overall : List (KeyFigure × Cell α))
    (labels : Entries String) :
    GivesOnly (figures r operation overall labels) (Formed limits unknown) := by
  unfold figures
  apply givesOnly_bind
  intro scope
  refine givesOnly_ite (fun _ => givesFormed_data rfl rfl rfl nofun) fun _ =>
    givesOnly_ite (fun _ => givesOnly_ok (formed_noDataFor _ _ _)) fun _ => ?_
  exact givesOnly_bind fun _ => givesOnly_bind fun _ => givesFormed_data rfl rfl rfl nofun

theorem givesFormed_leaderAnswer (column : Column) (noun : String) (dimension : Option Dimension)
    (note : String) (withCount : Bool) (rows : List (Record α)) :
    GivesOnly (leaderAnswer column noun dimension note withCount rows)
      (Formed limits unknown) := by
  unfold leaderAnswer
  apply givesOnly_bind
  intro found
  cases found with
  | none => exact givesOnly_ok (formed_noData rfl _)
  | some leader => exact givesFormed_data rfl rfl rfl (eq_one_of_dimension dimension)

theorem formed_masterIds : AnswersOnly (Formed r.Allows unknown) (masterIds r) := by
  unfold masterIds
  refine answersOnly_ite answersOnly_none (answersOnly_ite ?_ (answersOnly_ite ?_ answersOnly_none))
  · exact answersOnly_bind fun _ => formed_told rfl rfl rfl nofun
  · exact (givesFormed_topRecords _ _ (r.allows_getD (by decide)) _).told

theorem formed_sales : AnswersOnly (Formed limits unknown) (sales r) := by
  unfold sales
  refine answersOnly_ite answersOnly_none (answersOnly_bind fun _ => answersOnly_bind fun _ => ?_)
  exact answersOnly_ite (formed_told rfl rfl rfl nofun)
    (answersOnly_ite (formed_told rfl rfl rfl nofun) answersOnly_none)

theorem formed_days : AnswersOnly (Formed r.Allows unknown) (days r) := by
  unfold days
  refine answersOnly_ite answersOnly_none (answersOnly_ite ?_ (answersOnly_ite ?_ answersOnly_none))
  · exact answersOnly_bind fun span => formed_told rfl rfl rfl nofun
  · exact (givesFormed_topList _ _ (r.allows_getD (by decide)) _).told

theorem formed_allMonths :
    AnswersOnly (Formed limits unknown) (do return some (← allMonths r)) := by
  have hmonths : GivesOnly (allMonths r) (Formed limits unknown) := by
    apply (givesFormed_breakdown r.rows .month []).bind
    intro result hresult
    exact givesOnly_ok (hresult.relabel rfl rfl rfl rfl rfl rfl rfl)
  exact hmonths.told

theorem formed_months : AnswersOnly (Formed limits unknown) (months r) :=
  answersOnly_ite (formed_allMonths r) answersOnly_none

theorem formed_revenue : AnswersOnly (Formed r.Allows unknown) (revenue r) := by
  unfold revenue
  refine answersOnly_ite answersOnly_none <|
    answersOnly_ite (givesFormed_figures r _ _ _).told <|
    answersOnly_ite (givesFormed_figures r _ _ _).told <| answersOnly_ite ?_ answersOnly_none
  apply answersOnly_bind
  intro scope
  refine answersOnly_ite (answersOnly_some (formed_noDataFor _ _ _)) (answersOnly_some ?_)
  exact (formed_topTransactions scope.rows { limit := 1, title := _, layout := _ } r.allows_one _)
    |>.relabel rfl rfl rfl rfl rfl rfl rfl

theorem formed_orders : AnswersOnly (Formed limits unknown) (orders r) :=
  answersOnly_ite answersOnly_none <|
    answersOnly_ite (givesFormed_figures r _ _ _).told answersOnly_none

theorem formed_customers : AnswersOnly (Formed r.Allows unknown) (customers r) := by
  unfold customers
  refine answersOnly_ite answersOnly_none <|
    answersOnly_ite (givesFormed_figures r _ _ _).told <| answersOnly_ite ?_ answersOnly_none
  split
  · rename_i hstated
    exact (givesFormed_topList _ _ (Request.allows_stated hstated) _).told
  · exact (givesFormed_leaderAnswer _ _ _ _ _ _).told

theorem formed_products : AnswersOnly (Formed r.Allows unknown) (products r) := by
  unfold products
  refine answersOnly_ite answersOnly_none <| answersOnly_ite ?_ <|
    answersOnly_ite (givesFormed_figures r _ _ _).told answersOnly_none
  split
  · rename_i hstated
    exact (givesFormed_topList _ _ (Request.allows_stated hstated) _).told
  · exact (givesFormed_leaderAnswer _ _ _ _ _ _).told

theorem formed_quantities : AnswersOnly (Formed limits unknown) (quantities r) := by
  unfold quantities
  refine answersOnly_ite answersOnly_none (answersOnly_bind fun average => ?_)
  exact (givesFormed_figures r _ _ _).told

theorem formed_stockGroups : AnswersOnly (Formed r.Allows unknown) (stockGroups r) := by
  unfold stockGroups
  apply answersOnly_ite answersOnly_none
  split
  · rename_i hstated
    exact (givesFormed_topList _ _ (Request.allows_stated hstated) _).told
  · exact answersOnly_ite answersOnly_none (givesFormed_leaderAnswer _ _ _ _ _ _).told

theorem formed_regions : AnswersOnly (Formed limits unknown) (regions r) :=
  answersOnly_ite answersOnly_none <|
    answersOnly_ite answersOnly_none (givesFormed_leaderAnswer _ _ _ _ _ _).told

theorem formed_periods : AnswersOnly (Formed limits unknown) (periods r) := by
  unfold periods
  apply answersOnly_ite answersOnly_none
  split
  · apply answersOnly_bind
    intro rows
    refine answersOnly_bind fun label => ?_
    exact answersOnly_ite (answersOnly_some (formed_noDataFor _ _ _))
      (givesFormed_entitySummary rows _ _ _ _).told
  · exact answersOnly_bind fun span => formed_told rfl rfl rfl nofun

theorem formed_trends : AnswersOnly (Formed limits unknown) (trends r) := by
  unfold trends
  split
  · exact answersOnly_some (formed_trend _)
  · exact answersOnly_none

theorem formed_entities : AnswersOnly (Formed limits unknown) (entities r) := by
  unfold entities
  split
  · exact (givesFormed_monthWise _ _ _).told
  · refine answersOnly_ite (formed_allMonths r) (answersOnly_ite answersOnly_none ?_)
    split
    · exact answersOnly_none
    · exact (givesFormed_entitySummary _ _ _ _ _).told

theorem formed_universal : AnswersOnly (Formed r.Allows unknown) (universal r) := by
  unfold universal
  apply answersOnly_ite answersOnly_none
  refine answersOnly_bind fun scope => GivesOnly.told ?_
  exact givesFormed_execute _ _ (r.allows_getD (by decide))

theorem formed_debug : AnswersOnly (Formed limits unknown) (debug r) :=
  answersOnly_ite (givesFormed_debugInfo _).told answersOnly_none

end

end Answer

namespace Stage

open Answer

def Limits (r : Request α) : Stage → Int → Prop
  | structured => (route r).Limits r
  | _ => r.Allows

/-- Can the stage only tell that no record has a name of the question? -/
def Unknown (r : Request α) : Stage → Prop
  | structured => (route r).Unknown r
  | _ => False

variable [Figure α] (r : Request α)

theorem formed_strategy (stage : Stage) :
    AnswersOnly (Formed (stage.Limits r) (stage.Unknown r)) (stage.strategy r) := by
  cases stage with
  | noData | empty => exact answersOnly_none
  | structured => exact formed_structured r
  | followUp => exact formed_followUp r
  | complexTop => exact formed_complexTop r
  | masterIds => exact formed_masterIds r
  | sales => exact formed_sales r
  | days => exact formed_days r
  | months => exact formed_months r
  | revenue => exact formed_revenue r
  | orders => exact formed_orders r
  | customers => exact formed_customers r
  | products => exact formed_products r
  | quantities => exact formed_quantities r
  | stockGroups => exact formed_stockGroups r
  | regions => exact formed_regions r
  | periods => exact formed_periods r
  | compareHint => exact formed_compareHint r
  | trends => exact formed_trends r
  | summary => exact formed_summary r
  | entities => exact formed_entities r
  | universal => exact formed_universal r
  | debug => exact formed_debug r
  | help => exact formed_help r
  | fallback => exact answersOnly_some (formed_words _ _)

end Stage

end SalesDesk
