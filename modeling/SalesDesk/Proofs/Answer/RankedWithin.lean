import SalesDesk.Proofs.Analysis.Groups
import SalesDesk.Proofs.Answer.Asked
import SalesDesk.Proofs.Answer.Formed

/-!
The count that a question states bounds the rankings of its answer. Two answers keep to limits of
their own instead: that to a comparison of two periods, and that to a question about one period.
-/
namespace SalesDesk

namespace Result

variable {α : Type}

/-- The rankings of an answer and of its sections have at most so many rows. -/
inductive RankedWithin (n : Nat) : Result α → Prop
  | intro {result : Result α} (own : result.ranked = true → result.rows.length ≤ n)
    (sections : ∀ s ∈ result.sections, s.RankedWithin n) : RankedWithin n result

variable {result : Result α} {n : Nat}

theorem Formed.rankedWithin {limits : Int → Prop} {unknown : Prop}
    (h : result.Formed limits unknown) (hlimits : ∀ limit, limits limit → 0 ≤ limit ∧ limit ≤ n) :
    result.RankedWithin n := by
  induction h with
  | intro _ _ ranking _ _ ih =>
    refine ⟨fun hranked => ?_, ih⟩
    obtain ⟨limit, hlimit, hlength⟩ := ranking hranked
    obtain ⟨hpos, hle⟩ := hlimits limit hlimit
    have := hlength hpos
    omega

end Result

open Result

variable {α : Type}

namespace Answer

/-- How long the rankings of a route get where the question states this count. -/
def Route.longestRanking (n : Nat) : Route → Nat
  | comparison => rankingDefault.toNat
  | period => periodLeadersLimit.toNat
  | _ => n

theorem Route.limits_le {r : Request α} {n : Nat} (hallows : ∀ limit, r.Allows limit →
    0 ≤ limit ∧ limit ≤ n) (route : Route) (limit : Int) (h : route.Limits r limit) :
    0 ≤ limit ∧ limit ≤ route.longestRanking n := by
  cases route with
  | comparison | period =>
    obtain rfl : limit = _ := h
    simp [longestRanking, rankingDefault, periodLeadersLimit]
  | customer | product | ranking | clarification | overall | pass => exact hallows limit h

end Answer

namespace Stage

/-- How long the rankings of a stage get where the question states this count. -/
def longestRanking (r : Request α) (n : Nat) : Stage → Nat
  | structured => (Answer.route r).longestRanking n
  | _ => n

theorem limits_le {r : Request α} {n : Nat} (hallows : ∀ limit, r.Allows limit →
    0 ≤ limit ∧ limit ≤ n) (stage : Stage) (limit : Int) (h : stage.Limits r limit) :
    0 ≤ limit ∧ limit ≤ stage.longestRanking r n := by
  cases stage with
  | structured => exact (Answer.route r).limits_le hallows limit h
  | _ => exact hallows limit h

end Stage

variable [Figure α]

/-- Where a question states a count, no ranking of its answer is longer, but for two kinds of
answers: a comparison of two periods tells at most five customers of each, and a question about one
period is told at most ten. -/
theorem rankedWithin_of_resolve {query : String} {d : Dataset α} {context : Context} {stage : Stage}
    {result : Result α} {n : Nat} (hn : 1 ≤ n) (hcount : Query.count? query = .ok (some (n : Int)))
    (h : resolve query d context = .ok (stage, result)) :
    ∃ r, Request.make query d context = .ok r ∧
      result.RankedWithin (stage.longestRanking r n) := by
  have hmake := Request.make_eq hcount d context
  refine ⟨_, hmake, ?_⟩
  have hall : GivesOnly (resolve query d context) fun found =>
      found.2.RankedWithin (found.1.longestRanking (.counting query d context (some n)) n) := by
    apply givesOnly_resolve (P := fun stage result =>
      result.RankedWithin (stage.longestRanking (.counting query d context (some n)) n))
    · exact ⟨nofun, nofun⟩
    · exact ⟨nofun, nofun⟩
    · intro r hr stage
      obtain rfl := Except.ok.inj (hmake.symm.trans hr)
      constructor
      intro answer hanswer result hresult
      have hformed := (stage.formed_strategy _).of_ok answer hanswer result hresult
      exact hformed.rankedWithin (stage.limits_le fun limit hlimit => hlimit.within n hn rfl rfl)
  exact hall.of_ok _ h

/-- Sales of steel to three customers in April. -/
def steelInApril : List (Record Float) :=
  let sale (customer : String) (amount : Float) : Record Float :=
    { customer, item := "Steel", category := "", region := "", amount, quantity := 1,
      masterId := .text "m1", date := ⟨2024, 4, 2⟩ }
  [sale "Acme" 30, sale "Zen" 20, sale "Odo" 10]

/-- The two best customers for a product, beside its figures. -/
theorem rankedWithin_of_resolve_steel : ∃ d stage result r,
    Dataset.ofRecords steelInApril none = .ok d ∧ 1 ≤ 2 ∧
    Query.count? "top 2 customers for Steel" = .ok (some ((2 : Nat) : Int)) ∧
    resolve "top 2 customers for Steel" d {} = .ok (stage, result) ∧
    result.sections.map (·.ranked) = [true, false] ∧
    Request.make "top 2 customers for Steel" d {} = .ok r ∧ stage.longestRanking r 2 = 2 ∧
    result.RankedWithin 2 := by
  obtain ⟨d, r, hd, hr, hseen⟩ := Request.exists_of_seen "top 2 customers for Steel" steelInApril
    (fun r => (resolve "top 2 customers for Steel" r.dataset {}).toOption.any fun found =>
      found.1.longestRanking r 2 == 2 && found.2.sections.map (·.ranked) == [true, false])
    (by decide +kernel)
  obtain rfl := (Request.make_fields hr).1
  obtain ⟨⟨stage, result⟩, hresolve, hseen⟩ := exists_of_toOption_any hseen
  obtain ⟨hlongest, hsections⟩ := Bool.and_eq_true_iff.mp hseen
  have hlongest : stage.longestRanking r 2 = 2 := eq_of_beq hlongest
  have hcount : Query.count? "top 2 customers for Steel" = .ok (some ((2 : Nat) : Int)) := by
    with_unfolding_all rfl
  obtain ⟨r', hr', hranked⟩ := rankedWithin_of_resolve (by decide) hcount hresolve
  obtain rfl := Except.ok.inj (hr.symm.trans hr')
  rw [hlongest] at hranked
  exact ⟨_, stage, result, r, hd, by decide, hcount, hresolve, eq_of_beq hsections, hr, hlongest,
    hranked⟩

section
variable {r : Request α} {p : Period} {rows : List (Record α)} {result : Result α} {n : Nat}

theorem length_groups {grouping : Grouping} {found : List (Group α)}
    (hn : groupCount grouping rows = .ok n) (h : groups grouping rows = .ok found) :
    found.length = n := by
  exact Except.ok.inj ((groupCount_of_groups h).symm.trans hn)

theorem rows_ne_nil_of_groupCount {grouping : Grouping} (hn : groupCount grouping rows = .ok n)
    (hpos : 0 < n) : rows.isEmpty = false := by
  cases rows with
  | nil =>
    obtain ⟨pairs, hpairs, hn⟩ := bind_eq_ok.mp hn
    obtain ⟨key, -, hpairs⟩ := bind_eq_ok.mp hpairs
    cases hpairs
    cases hn
    exact absurd hpos (Nat.lt_irrefl _)
  | cons r rest => rfl

theorem length_groupRanking {grouping : Grouping} {measure : Measure} {style : RankingStyle}
    {filters : Entries String} (hn : groupCount grouping rows = .ok n) (hpos : 0 < n)
    (hlimit : 0 ≤ style.limit) (h : groupRanking grouping measure rows style filters = .ok result) :
    result.ranked = true ∧ result.rows.length = min style.limit.toNat n := by
  rw [groupRanking, rows_ne_nil_of_groupCount hn hpos] at h
  obtain ⟨found, hfound, h⟩ := bind_eq_ok.mp h
  obtain ⟨title, -, h⟩ := bind_eq_ok.mp h
  cases h
  have hfalling : ∀ figure : Group α → α, (falling figure found).length = n := fun figure =>
    (List.length_mergeSort found).trans (length_groups hn hfound)
  have hranked : (ranked (Group.measured measure) style.bottom found).length = n := by
    unfold ranked
    split
    · rw [List.length_reverse, hfalling]
    · exact hfalling _
  refine ⟨rfl, ?_⟩
  rw [List.length_map, upTo, if_pos hlimit, List.length_take, hranked]

namespace Answer

def customersIn (r : Request α) (p : Period) : Except Fault Nat := do
  groupCount (.column .customer) (← Filter.inPeriod (some p) (← r.ofGroups).rows)

/-- The answer about one period tells up to ten of its customers, whatever count is stated. -/
theorem length_byPeriod {others : List Period} (hp : r.mentions.periods = p :: others)
    (hn : customersIn r p = .ok n) (hpos : 0 < n) (h : byPeriod r = .ok (some result)) :
    result.ranked = true ∧ result.rows.length = min periodLeadersLimit.toNat n := by
  obtain ⟨scope, hscope, hn⟩ := bind_eq_ok.mp hn
  obtain ⟨inside, hinside, hn⟩ := bind_eq_ok.mp hn
  simp only [byPeriod, hp, hscope, topGroupsIn, hinside, ok_bind,
    rows_ne_nil_of_groupCount hn hpos] at h
  obtain ⟨title, -, h⟩ := bind_eq_ok.mp h
  obtain ⟨told, htold, h⟩ := bind_eq_ok.mp h
  obtain ⟨ranking, hranking, htold⟩ := bind_eq_ok.mp htold
  obtain ⟨label, -, htold⟩ := bind_eq_ok.mp htold
  cases htold
  cases h
  exact length_groupRanking hn hpos (Int.natCast_nonneg 10) hranking

/-- The comparison of two periods tells up to five customers of the first, whatever count is
stated. -/
theorem length_byComparison {others : List Period} {second : Period} (hr : r.ReadsPeriods)
    (hp : r.mentions.periods = p :: second :: others) (hn : customersIn r p = .ok n) (hpos : 0 < n)
    (h : byComparison r = .ok (some result)) :
    ∃ leaders ∈ result.sections,
      leaders.ranked = true ∧ leaders.rows.length = min rankingDefault.toNat n := by
  obtain ⟨scope, hscope, hn⟩ := bind_eq_ok.mp hn
  obtain ⟨before, hbefore, hn⟩ := bind_eq_ok.mp hn
  have hmem : p ∈ Query.periods r.lower := by
    rw [← hr.periods, hp]
    exact List.mem_cons_self
  have hknown := Query.known_of_mem_periods hmem
  have hall : scope.rows.isEmpty = false := by
    rw [Filter.inPeriod_some hknown] at hbefore
    obtain rfl := Except.ok.inj hbefore
    have hsome := rows_ne_nil_of_groupCount hn hpos
    cases hrows : scope.rows with
    | nil => rw [hrows] at hsome; cases hsome
    | cons row rest => rfl
  simp only [byComparison, hp, hscope, comparisonWithLeaders, hall, hbefore, ok_bind] at h
  obtain ⟨told, htold, h⟩ := bind_eq_ok.mp h
  obtain ⟨after, hafter, htold⟩ := bind_eq_ok.mp htold
  obtain ⟨label, -, htold⟩ := bind_eq_ok.mp htold
  obtain ⟨leaders, hleaders, htold⟩ := bind_eq_ok.mp htold
  obtain ⟨label', -, htold⟩ := bind_eq_ok.mp htold
  obtain ⟨others, -, htold⟩ := bind_eq_ok.mp htold
  cases htold
  cases h
  rw [periodLeaders, rows_ne_nil_of_groupCount hn hpos] at hleaders
  exact ⟨leaders, List.mem_cons_self,
    length_groupRanking hn hpos (Int.natCast_nonneg 5) hleaders⟩

end Answer

end

private theorem exists_of_route (query : String) (route : Answer.Route) (periods : List Period)
    (h : ((do
      let d ← Dataset.ofRecords steelInApril none
      let found ← resolve query d {}
      let r ← Request.make query d {}
      let n ← Answer.customersIn r ⟨some "april", none⟩
      return found.1 == .structured && Answer.route r == route &&
        r.mentions.periods == periods && n == 3 : Except Fault Bool).toOption.any id) = true) :
    ∃ d r result, Dataset.ofRecords steelInApril none = .ok d ∧
      resolve query d {} = .ok (.structured, result) ∧ r.ReadsPeriods ∧
      route.strategy r = .ok (some result) ∧ r.mentions.periods = periods ∧
      Answer.customersIn r ⟨some "april", none⟩ = .ok 3 := by
  obtain ⟨seen, hrun, rfl⟩ := exists_of_toOption_any h
  obtain ⟨d, hd, hrun⟩ := bind_eq_ok.mp hrun
  obtain ⟨⟨stage, result⟩, hresolve, hrun⟩ := bind_eq_ok.mp hrun
  obtain ⟨r, hr, hrun⟩ := bind_eq_ok.mp hrun
  obtain ⟨n, hn, hrun⟩ := bind_eq_ok.mp hrun
  simp only [pure_eq_ok, Except.ok.injEq, Bool.and_eq_true, beq_iff_eq] at hrun
  obtain ⟨⟨⟨rfl, hroute⟩, hperiods⟩, rfl⟩ := hrun
  have hstrategy : Stage.structured.strategy r = .ok (some result) := by
    simpa using (strategy_of_resolve hr).of_ok _ hresolve
  rw [Stage.strategy, Answer.structured_eq_route, hroute] at hstrategy
  exact ⟨d, r, result, hd, hresolve, Request.readsPeriods_of_make hr, hstrategy, hperiods, hn⟩

/-- Three customers are told where two are asked for, of the first of two months and of a single
month. -/
theorem overruns_of_periods :
    (Query.count? "april vs may: 2 customers" = .ok (some ((2 : Nat) : Int)) ∧
      ∃ d stage result, Dataset.ofRecords steelInApril none = .ok d ∧
        resolve "april vs may: 2 customers" d {} = .ok (stage, result) ∧
        ¬result.RankedWithin 2) ∧
    (Query.count? "april month: 2 customers" = .ok (some ((2 : Nat) : Int)) ∧
      ∃ d stage result, Dataset.ofRecords steelInApril none = .ok d ∧
        resolve "april month: 2 customers" d {} = .ok (stage, result) ∧
        ¬result.RankedWithin 2) := by
  refine ⟨⟨by with_unfolding_all rfl, ?_⟩, ⟨by with_unfolding_all rfl, ?_⟩⟩
  · obtain ⟨d, r, result, hd, hresolve, hr, hanswer, hperiods, hn⟩ :=
      exists_of_route "april vs may: 2 customers" .comparison
        [⟨some "april", none⟩, ⟨some "may", none⟩] (by decide +kernel)
    obtain ⟨leaders, hmem, hranked, hlength⟩ :=
      Answer.length_byComparison hr hperiods hn (by decide) hanswer
    refine ⟨d, .structured, result, hd, hresolve, ?_⟩
    rintro ⟨-, hsections⟩
    cases hsections leaders hmem with
    | intro own _ => exact absurd (own hranked) (by rw [hlength]; decide)
  · obtain ⟨d, r, result, hd, hresolve, -, hanswer, hperiods, hn⟩ :=
      exists_of_route "april month: 2 customers" .period [⟨some "april", none⟩] (by decide +kernel)
    obtain ⟨hranked, hlength⟩ := Answer.length_byPeriod hperiods hn (by decide) hanswer
    refine ⟨d, .structured, result, hd, hresolve, ?_⟩
    rintro ⟨own, -⟩
    exact absurd (own hranked) (by rw [hlength]; decide)

end SalesDesk
