import SalesDesk.Analysis.Comparisons
import SalesDesk.Proofs.Analysis.Titles
import Mathlib.Tactic.SplitIfs

/-!
How analyses put answers together: rankings keep to a limit, a lack of data is told in the usual
words, and an answer without data names no dimension.
-/
namespace SalesDesk

theorem length_upTo_le {β : Type} {limit : Int} (h : 0 ≤ limit) (xs : List β) :
    (upTo limit xs).length ≤ limit.toNat := by
  rw [upTo, if_pos h]
  exact List.length_take_le _ _

/-- Do answers of this kind hold data? -/
def ResultKind.hasData : ResultKind → Bool
  | table | summary | composite => true
  | message | noData => false

namespace Result

variable {α : Type}

def Quiet (result : Result α) : Prop := result.kind.hasData = false → result.dimension = none

def SaysNo (result : Result α) : Prop := result.message.toList.head? = some 'N'

/-- An answer, with its sections, as analyses put it together. Its rankings keep to one of the
limits, and the count that it remembers is one or such a limit. Where `unknown` holds, a lack of
data may be told in other words. -/
inductive Formed (limits : Int → Prop) (unknown : Prop) : Result α → Prop
  | intro {result : Result α} (quiet : result.Quiet)
    (refusal : result.kind = .noData → unknown ∨ result.SaysNo)
    (ranking : result.ranked = true →
      ∃ limit, limits limit ∧ (0 ≤ limit → result.rows.length ≤ limit.toNat))
    (counted : ∀ n, result.count = some n → n = 1 ∨ limits n)
    (sections : ∀ s ∈ result.sections, s.Formed limits unknown) : Formed limits unknown result

section
variable {limits : Int → Prop} {unknown : Prop} {result other : Result α}

theorem Formed.quiet (h : result.Formed limits unknown) : result.Quiet := by
  cases h
  assumption

theorem Formed.saysNo (h : result.Formed limits unknown) (hkind : result.kind = .noData)
    (hknown : ¬unknown) : result.SaysNo := by
  cases h with
  | intro _ refusal _ _ _ => exact (refusal hkind).resolve_left hknown

theorem Formed.counted {n : Int} (h : result.Formed limits unknown) (hn : result.count = some n) :
    n = 1 ∨ limits n := by
  cases h with
  | intro _ _ _ counted _ => exact counted n hn

theorem formed_noData {message : String} (h : message.toList.head? = some 'N')
    (operation : String) : (noData message operation : Result α).Formed limits unknown :=
  ⟨fun _ => rfl, fun _ => .inr h, nofun, nofun, nofun⟩

theorem formed_words (message operation : String) :
    (words message operation : Result α).Formed limits unknown :=
  ⟨fun _ => rfl, nofun, nofun, nofun, nofun⟩

theorem formed_data (hkind : result.kind.hasData = true) (hranked : result.ranked = false)
    (hsections : result.sections = []) (hcount : ∀ n, result.count = some n → n = 1) :
    result.Formed limits unknown := by
  constructor
  · intro hnone
    rw [hkind] at hnone
    cases hnone
  · intro hnone
    rw [hnone] at hkind
    cases hkind
  · intro hyes
    rw [hranked] at hyes
    cases hyes
  · exact fun n hn => .inl (hcount n hn)
  · rw [hsections]
    exact nofun

theorem formed_composite (hkind : result.kind = .composite) (hranked : result.ranked = false)
    (hcount : ∀ n, result.count = some n → n = 1 ∨ limits n)
    (hsections : ∀ s ∈ result.sections, s.Formed limits unknown) :
    result.Formed limits unknown := by
  refine ⟨?_, ?_, ?_, hcount, hsections⟩
  · rw [Quiet, hkind]
    exact nofun
  · rw [hkind]
    exact nofun
  · rw [hranked]
    exact nofun

theorem Formed.relabel (h : result.Formed limits unknown) (hkind : other.kind = result.kind)
    (hdimension : other.dimension = result.dimension) (hmessage : other.message = result.message)
    (hranked : other.ranked = result.ranked) (hrows : other.rows = result.rows)
    (hcount : other.count = result.count) (hsections : other.sections = result.sections) :
    other.Formed limits unknown := by
  cases h with
  | intro quiet refusal ranking counted sections =>
    constructor
    · rw [Quiet, hkind, hdimension]
      exact quiet
    · rw [hkind, SaysNo, hmessage]
      exact refusal
    · rw [hranked, hrows]
      exact ranking
    · rw [hcount]
      exact counted
    · rw [hsections]
      exact sections

end

end Result

open Result

section
variable {α : Type} {limits : Int → Prop} {unknown : Prop}

/-- An answer about one name counts one. -/
theorem eq_one_of_dimension (dimension : Option Dimension) (n : Int)
    (h : (dimension.map fun _ => (1 : Int)) = some n) : n = 1 := by
  obtain ⟨_, -, rfl⟩ := Option.map_eq_some_iff.mp h
  rfl

theorem eq_or_of_limit {limit : Int} (h : limits limit) (n : Int) (hn : some limit = some n) :
    n = 1 ∨ limits n := .inr (Option.some.inj hn ▸ h)

theorem givesFormed_data {result : Result α} (hkind : result.kind.hasData = true)
    (hranked : result.ranked = false) (hsections : result.sections = [])
    (hcount : ∀ n, result.count = some n → n = 1) :
    GivesOnly (.ok result : Except Fault (Result α)) (Formed limits unknown) :=
  givesOnly_ok (formed_data hkind hranked hsections hcount)

/-- The common shape of an analysis: nothing to say without records. -/
theorem givesFormed_orNoData {c : Prop} [Decidable c] {message operation : String}
    {x : Except Fault (Result α)} (hno : message.toList.head? = some 'N')
    (h : GivesOnly x (Formed limits unknown)) :
    GivesOnly (if c then .ok (.noData message operation) else x) (Formed limits unknown) :=
  givesOnly_ite (fun _ => givesOnly_ok (formed_noData hno operation)) fun _ => h

theorem givesFormed_pair {first second : Except Fault (Result α)}
    {both : Result α → Result α → Result α} (hfirst : GivesOnly first (Formed limits unknown))
    (hsecond : GivesOnly second (Formed limits unknown))
    (hkind : ∀ r s, (both r s).kind = .composite) (hranked : ∀ r s, (both r s).ranked = false)
    (hcount : ∀ r s n, (both r s).count = some n → n = 1 ∨ limits n)
    (hsections : ∀ r s, (both r s).sections = [r, s]) :
    GivesOnly (do return both (← first) (← second)) (Formed limits unknown) := by
  apply hfirst.bind
  intro r hr
  apply hsecond.bind
  intro s hs
  apply givesOnly_ok
  apply formed_composite (hkind r s) (hranked r s) (hcount r s)
  rw [hsections]
  exact List.forall_mem_cons.mpr ⟨hr, List.forall_mem_singleton.mpr hs⟩

/-- What starts in the usual words goes on as it likes. -/
theorem head?_text_append {s : String} {c : Char} (h : s.toList.head? = some c) (rest : String) :
    (s ++ rest).toList.head? = some c := by
  rw [String.toList_append, List.head?_append, h]
  rfl

theorem formed_noDataFor (subject operation : String) (all : List (Record α)) :
    (noDataFor subject operation all).Formed limits unknown := by
  have hno : ("No sales data found for " ++ subject ++ ".").toList.head? = some 'N' :=
    head?_text_append (head?_text_append rfl subject) "."
  unfold noDataFor
  split
  · exact formed_noData hno operation
  · exact (formed_noData hno operation).relabel rfl rfl rfl rfl rfl rfl rfl

end

section
variable {α : Type} [Figure α] {limits : Int → Prop} {unknown : Prop} (rows : List (Record α))

theorem givesFormed_breakdown (grouping : Grouping) (filters : Entries String) :
    GivesOnly (breakdown grouping rows filters) (Formed limits unknown) := by
  unfold breakdown
  apply givesFormed_orNoData rfl
  exact givesOnly_bind fun _ => givesFormed_data rfl rfl rfl nofun

theorem formed_topTransactions (style : RankingStyle) (h : limits style.limit)
    (dimension : Option Dimension) :
    (topTransactions rows style dimension).Formed limits unknown := by
  unfold topTransactions
  split
  · exact formed_noData rfl _
  · refine ⟨nofun, nofun, fun _ => ⟨style.limit, h, fun hlimit => ?_⟩, eq_or_of_limit h, nofun⟩
    rw [List.length_map]
    exact length_upTo_le hlimit _

theorem givesFormed_transactionRanking (style : RankingStyle) (h : limits style.limit)
    (dimension : Option Dimension) :
    GivesOnly (transactionRanking rows style dimension) (Formed limits unknown) :=
  givesOnly_transactionRanking.mono fun _ hresult =>
    hresult ▸ formed_topTransactions rows style h dimension

theorem givesFormed_groupRanking (grouping : Grouping) (measure : Measure) (style : RankingStyle)
    (h : limits style.limit) (filters : Entries String) :
    GivesOnly (groupRanking grouping measure rows style filters) (Formed limits unknown) := by
  unfold groupRanking
  apply givesFormed_orNoData rfl
  refine givesOnly_bind fun found => givesOnly_bind fun title => givesOnly_ok ?_
  refine ⟨nofun, nofun, fun _ => ⟨style.limit, h, fun hlimit => ?_⟩, eq_or_of_limit h, nofun⟩
  rw [List.length_map]
  exact length_upTo_le hlimit _

theorem givesFormed_ranking (grouping : Option Grouping) (measure : Measure)
    (style : RankingStyle) (h : limits style.limit) (filters : Entries String) :
    GivesOnly (ranking grouping measure rows style filters) (Formed limits unknown) := by
  cases grouping with
  | none =>
    apply (givesFormed_transactionRanking rows { style with title := none } h _).bind
    intro result hresult
    exact givesOnly_ok (hresult.relabel rfl rfl rfl rfl rfl rfl rfl)
  | some g => exact givesFormed_groupRanking rows g measure style h filters

theorem givesFormed_aggregate (filters : Entries String) :
    GivesOnly (aggregate rows filters) (Formed limits unknown) := by
  unfold aggregate
  apply givesFormed_orNoData rfl
  exact givesOnly_bind fun _ => givesFormed_data rfl rfl rfl nofun

theorem formed_average (filters : Entries String) :
    (average rows filters).Formed limits unknown := by
  unfold average
  split
  · exact formed_noData rfl _
  · exact formed_data rfl rfl rfl nofun

theorem givesFormed_count (grouping : Option Grouping) (filters : Entries String) :
    GivesOnly (count grouping rows filters) (Formed limits unknown) := by
  unfold count
  apply givesFormed_orNoData rfl
  cases grouping with
  | none => exact givesFormed_data rfl rfl rfl nofun
  | some g => exact givesOnly_bind fun _ => givesFormed_data rfl rfl rfl nofun

theorem givesFormed_smartSummary (filters : Entries String) :
    GivesOnly (smartSummary rows filters) (Formed limits unknown) := by
  unfold smartSummary
  apply givesFormed_orNoData rfl
  exact givesOnly_bind fun _ => givesFormed_data rfl rfl rfl nofun

theorem givesFormed_entitySummary (title note : String) (dimension : Option Dimension)
    (withCustomers : Bool) :
    GivesOnly (entitySummary rows title note dimension withCustomers) (Formed limits unknown) := by
  unfold entitySummary
  apply givesFormed_orNoData (head?_text_append (head?_text_append rfl title) ".")
  exact givesOnly_bind fun _ => givesFormed_data rfl rfl rfl (eq_one_of_dimension dimension)

theorem givesFormed_monthWise (title : String) (dimension : Option Dimension) :
    GivesOnly (monthWise rows title dimension) (Formed limits unknown) := by
  unfold monthWise
  apply givesFormed_orNoData (head?_text_append (head?_text_append rfl title) ".")
  exact givesFormed_pair (givesFormed_entitySummary rows _ _ _ _) (givesFormed_breakdown rows _ _)
    (fun _ _ => rfl) (fun _ _ => rfl) (fun _ _ n hn => .inl (eq_one_of_dimension dimension n hn))
    fun _ _ => rfl

theorem givesFormed_topCustomersFor (product : String) {limit : Int} (h : limits limit) :
    GivesOnly (topCustomersFor rows product limit) (Formed limits unknown) := by
  unfold topCustomersFor
  apply givesFormed_orNoData (head?_text_append (head?_text_append rfl product) "\".")
  refine givesOnly_bind fun title => ?_
  exact givesFormed_pair (givesFormed_groupRanking rows _ _ _ h _)
    (givesFormed_entitySummary rows _ _ _ _) (fun _ _ => rfl) (fun _ _ => rfl)
    (fun _ _ => eq_or_of_limit h) fun _ _ => rfl

theorem givesFormed_debugInfo : GivesOnly (debugInfo rows) (Formed limits unknown) := by
  unfold debugInfo
  split
  · exact givesOnly_ok (formed_noData rfl _)
  · refine givesOnly_bind fun found => givesOnly_ok (formed_composite rfl rfl nofun ?_)
    exact List.forall_mem_cons.mpr
      ⟨formed_data rfl rfl rfl nofun, List.forall_mem_singleton.mpr (formed_data rfl rfl rfl nofun)⟩

theorem givesFormed_comparison (periods : List Period) (filters : Entries String) :
    GivesOnly (comparison rows periods filters) (Formed limits unknown) := by
  unfold comparison
  split
  · apply givesFormed_orNoData rfl
    refine givesOnly_bind fun before => givesOnly_bind fun after => ?_
    exact givesOnly_bind fun _ => givesOnly_bind fun _ => givesFormed_data rfl rfl rfl nofun
  · exact givesOnly_ok (formed_words _ _)

theorem givesFormed_topGroupsIn (period : Period) (grouping : Option Grouping) {limit : Int}
    (h : limits limit) (title : String) :
    GivesOnly (topGroupsIn rows period grouping limit title) (Formed limits unknown) := by
  unfold topGroupsIn
  apply givesOnly_bind
  intro inside
  refine givesOnly_ite (fun _ => ?_) fun _ => ?_
  · exact givesOnly_bind fun label => givesOnly_ok (formed_noDataFor _ _ _)
  · apply (givesFormed_ranking inside grouping .revenue { limit, title } h []).bind
    intro result hresult
    exact givesOnly_bind fun label => givesOnly_ok (hresult.relabel rfl rfl rfl rfl rfl rfl rfl)

theorem givesFormed_topDates (period : Option Period) {limit : Int} (h : limits limit) :
    GivesOnly (topDates rows period limit) (Formed limits unknown) := by
  unfold topDates
  cases period with
  | none => exact givesOnly_bind fun title => givesFormed_groupRanking rows _ _ _ h _
  | some p =>
    exact givesOnly_bind fun title => givesOnly_bind fun label =>
      givesFormed_topGroupsIn rows p _ h _

theorem givesFormed_periodLeaders (label : String) {limit : Int} (h : limits limit) :
    GivesOnly (periodLeaders label rows limit) (Formed limits unknown) :=
  givesFormed_orNoData (head?_text_append (head?_text_append rfl label) ".")
    (givesFormed_groupRanking rows _ _ _ h _)

theorem givesFormed_comparisonWithLeaders (first second : Period) {limit : Int}
    (h : limits limit) :
    GivesOnly (comparisonWithLeaders rows first second limit) (Formed limits unknown) := by
  unfold comparisonWithLeaders
  apply givesFormed_orNoData rfl
  refine givesOnly_bind fun before => givesOnly_bind fun after => ?_
  apply givesOnly_bind
  intro labelBefore
  apply (givesFormed_periodLeaders before labelBefore h).bind
  intro leadersBefore hbefore
  refine givesOnly_bind fun labelAfter => ?_
  apply (givesFormed_periodLeaders after labelAfter h).bind
  intro leadersAfter hafter
  apply givesOnly_ok
  apply formed_composite rfl rfl (eq_or_of_limit h)
  exact List.forall_mem_cons.mpr ⟨hbefore, List.forall_mem_cons.mpr
    ⟨hafter, List.forall_mem_singleton.mpr (formed_data rfl rfl rfl nofun)⟩⟩

theorem formed_trend : (trend rows).Formed limits unknown := by
  unfold trend
  split
  · exact formed_noData rfl _
  · exact formed_data rfl rfl rfl nofun

theorem givesFormed_execute (operation : Operation) {plan : Plan} (h : limits plan.limit) :
    GivesOnly (execute operation rows plan) (Formed limits unknown) := by
  unfold execute
  apply givesFormed_orNoData rfl
  split
  · exact givesFormed_breakdown rows _ _
  · exact givesFormed_smartSummary rows _
  · exact givesFormed_smartSummary rows _
  · exact givesFormed_ranking rows _ _ _ h _
  · exact givesFormed_ranking rows _ _ _ h _
  · exact givesFormed_aggregate rows _
  · exact givesOnly_ok (formed_average rows _)
  · exact givesFormed_count rows _ _
  · exact givesFormed_comparison rows _ _

end

end SalesDesk
