import SalesDesk.Analysis.Comparisons
import SalesDesk.Proofs.Analysis.Groups
import SalesDesk.Proofs.Analysis.Titles
import SalesDesk.Proofs.Ledger.Filtering

/-! Every analysis of records that can be told apart succeeds, and its answer can be written. -/
namespace SalesDesk

variable {α : Type} [Figure α] {rows : List (Record α)}

open Entries Result

theorem gives_breakdown {grouping : Grouping} (hg : grouping.IsKnown) (h : Tellable rows)
    (filters : Entries String) : Gives (breakdown grouping rows filters) Writable := by
  unfold breakdown
  apply gives_orNoData
  intro _
  apply (gives_groups hg h).map
  intro found hfound
  refine .ofRows (List.forall_mem_map.mpr fun g hmem => ?_) (List.cons_ne_nil _ _) rfl rfl
  have hsmall : g.Small := by
    split at hmem
    · exact hfound.2 g (List.mem_mergeSort.mp hmem)
    · exact hfound.2 g (mem_falling.mp hmem)
  exact fit_cons (fits_key g.key) <| fit_cons (Cell.fits_figure (by decide) _) <|
    fit_cons (hsmall.fits_orders _) <| fit_cons (Cell.fits_figure (by decide) _) <|
    fit_cons (hsmall.fits_transactions _) fit_nil

theorem writable_topTransactions (rows : List (Record α)) (style : RankingStyle)
    (dimension : Option Dimension) : (topTransactions rows style dimension).Writable := by
  unfold topTransactions
  split
  · exact .noData _ _
  · refine .ofRows (List.forall_mem_map.mpr fun r _ => ?_) (List.cons_ne_nil _ _) rfl rfl
    exact fit_cons (Cell.fits_text (by decide) _) <| fit_cons (Cell.fits_text (by decide) _) <|
      fit_cons (Cell.fits_figure (by decide) _) <| fit_cons trivial fit_nil

theorem gives_transactionRanking (rows : List (Record α)) (style : RankingStyle)
    (hlimit : Number.isWritable style.limit = true) (dimension : Option Dimension) :
    Gives (transactionRanking rows style dimension) Writable :=
  ⟨_, transactionRanking_of_isWritable hlimit, writable_topTransactions _ _ _⟩

theorem gives_topTitle {limit : Int} (hlimit : Number.isWritable limit = true) (subject : String) :
    Gives (topTitle limit subject) fun _ => True :=
  ⟨_, topTitle_of_isWritable hlimit subject, trivial⟩

theorem gives_groupRanking {grouping : Grouping} (hg : grouping.IsKnown) (h : Tellable rows)
    (measure : Measure) {style : RankingStyle} (htitled : style.IsTitled (some grouping))
    (filters : Entries String) :
    Gives (groupRanking grouping measure rows style filters) Writable := by
  obtain ⟨title, htitle⟩ := RankingStyle.exists_groupTitle htitled measure
  unfold groupRanking
  rw [htitle]
  apply gives_orNoData
  intro _
  apply (gives_groups hg h).map
  intro found hfound
  refine .ofRows (List.forall_mem_map.mpr fun g hmem => ?_) (List.cons_ne_nil _ _) rfl rfl
  have hsmall := hfound.2 g (mem_ranked.mp (mem_of_mem_upTo hmem))
  exact fit_cons (fits_key g.key) <| fit_cons (hsmall.fits_cell measure) fit_nil

theorem gives_ranking {grouping : Option Grouping} (hg : ∀ g, grouping = some g → g.IsKnown)
    (h : Tellable rows) (measure : Measure) {style : RankingStyle}
    (htitled : style.IsTitled grouping) (filters : Entries String) :
    Gives (ranking grouping measure rows style filters) Writable := by
  cases grouping with
  | none =>
    have hlimit : Number.isWritable style.limit = true := by
      simpa [RankingStyle.IsTitled] using htitled
    apply (gives_transactionRanking rows { style with title := none } hlimit _).map
    exact fun _ hresult => hresult.retitle rfl rfl rfl rfl
  | some g => exact gives_groupRanking (hg g rfl) h measure htitled filters

theorem gives_leader? {grouping : Grouping} (hg : grouping.IsKnown) (h : Tellable rows) :
    Gives (leader? grouping rows) fun found =>
      ∀ leader, found = some leader → leader.2.2 ≤ rows.length := by
  unfold leader?
  refine gives_ite (fun _ => gives_ok nofun) fun _ => ?_
  apply (gives_groups hg h).map
  intro found hfound leader hleader
  obtain ⟨g, -, rfl⟩ := Option.map_eq_some_iff.mp hleader
  simpa [falling] using hfound.1

theorem gives_aggregate (h : Tellable rows) (filters : Entries String) :
    Gives (aggregate rows filters) Writable := by
  unfold aggregate
  apply gives_orNoData
  intro _
  exact (gives_totals h _).map fun _ hfit => .ofTotals hfit rfl rfl

theorem writable_average (rows : List (Record α)) (filters : Entries String) :
    (average rows filters).Writable := by
  unfold average
  split
  · exact .noData _ _
  · refine .ofTotals ?_ rfl rfl
    exact fit_cons (Cell.fits_ofFigure? (by decide) _) <|
      fit_cons (Cell.fits_ofFigure? (by decide) _) fit_nil

theorem gives_count {grouping : Option Grouping} (hg : ∀ g, grouping = some g → g.IsKnown)
    (h : Tellable rows) (filters : Entries String) :
    Gives (count grouping rows filters) Writable := by
  unfold count
  apply gives_orNoData
  intro _
  cases grouping with
  | none => exact gives_ok (.ofTotals (fit_cons (h.fits_count (Nat.le_refl _) _) fit_nil) rfl rfl)
  | some g =>
    apply (gives_groupCount (hg g rfl) rows).bind
    intro n hn
    exact gives_ok (.ofTotals (fit_cons (h.fits_count hn _) fit_nil) rfl rfl)

theorem gives_smartSummary (h : Tellable rows) (filters : Entries String) :
    Gives (smartSummary rows filters) Writable := by
  unfold smartSummary
  apply gives_orNoData
  intro _
  exact (gives_totals h _).map fun _ hfit => .ofTotals hfit rfl rfl

theorem gives_entitySummary (h : Tellable rows) (title note : String)
    (dimension : Option Dimension) (withCustomers : Bool) :
    Gives (entitySummary rows title note dimension withCustomers) Writable := by
  unfold entitySummary
  apply gives_orNoData
  intro _
  exact (gives_totals h _).map fun _ hfit => .ofTotals hfit rfl rfl

theorem gives_monthWise (h : Tellable rows) (title : String) (dimension : Option Dimension) :
    Gives (monthWise rows title dimension) Writable := by
  unfold monthWise
  apply gives_orNoData
  intro _
  apply (gives_entitySummary h _ _ _ _).bind
  intro overall hoverall
  apply (gives_breakdown Grouping.isKnown_month h _).map
  intro monthly hmonthly
  exact .ofSections (.pair hoverall hmonthly) rfl rfl

theorem gives_topCustomersFor (h : Tellable rows) (product : String) {limit : Int}
    (hlimit : Number.isWritable limit = true) :
    Gives (topCustomersFor rows product limit) Writable := by
  unfold topCustomersFor
  apply gives_orNoData
  intro _
  apply (gives_topTitle hlimit _).bind
  intro title _
  apply (gives_groupRanking (Grouping.isKnown_field _) h _ (.inr hlimit) _).bind
  intro leaders hleaders
  apply (gives_entitySummary h _ _ _ _).map
  intro summary hsummary
  exact .ofSections (.pair hleaders hsummary) rfl rfl

theorem gives_debugInfo (h : Tellable rows) : Gives (debugInfo rows) Writable := by
  unfold debugInfo
  split
  · exact gives_ok (.noData _ _)
  · apply (gives_groups (Grouping.isKnown_field _) h).map
    intro found hfound
    refine .ofSections (.pair ?_ ?_) rfl rfl
    · refine .ofTotals ?_ rfl rfl
      exact fit_cons (h.fits_count (Nat.le_refl _) _) <|
        fit_cons (h.fits_count (nameCount_le .customer rows) _) <|
        fit_cons trivial <| fit_cons trivial fit_nil
    · refine .ofRows (List.forall_mem_map.mpr fun g hmem => ?_) (List.cons_ne_nil _ _) rfl rfl
      have hsmall := hfound.2 g (mem_falling.mp (List.mem_of_mem_take hmem))
      exact fit_cons (fits_key g.key) <| fit_cons (Cell.fits_figure (by decide) _) <|
        fit_cons (hsmall.fits_transactions _) fit_nil

theorem gives_inPeriod {p : Period} (hp : p.Tellable) (h : Tellable rows) :
    Gives (Filter.inPeriod (some p) rows) Tellable :=
  ⟨_, Filter.inPeriod_some hp.known rows, h.filter _⟩

theorem fits_growthCell (before after : α) : (growthCell before after).Fits "growth" :=
  Cell.fits_ofFigure? (by decide) _

theorem gives_comparison {periods : List Period} (hperiods : ∀ p ∈ periods, p.Tellable)
    (h : Tellable rows) (filters : Entries String) :
    Gives (comparison rows periods filters) Writable := by
  unfold comparison
  split
  · rename_i first second rest
    have hfirst : first.Tellable := hperiods first (by simp)
    have hsecond : second.Tellable := hperiods second (by simp)
    apply gives_orNoData
    intro _
    apply (gives_inPeriod hfirst h).bind
    intro before hbefore
    apply (gives_inPeriod hsecond h).bind
    intro after hafter
    rw [hfirst.written, hsecond.written]
    have hrow : ∀ (label : String) {rows : List (Record α)}, Tellable rows → Entries.Fit
        [("label", .text label), ("revenue", .figure (revenueOf rows)),
          ("transactions", .count rows.length)] := fun label rows hrows =>
      fit_cons (Cell.fits_text (by decide) _) <| fit_cons (Cell.fits_figure (by decide) _) <|
        fit_cons (hrows.fits_count (Nat.le_refl _) _) fit_nil
    refine gives_ok ⟨fit_cons (fits_growthCell _ _) fit_nil, ?_, fun _ => List.cons_ne_nil _ _,
      nofun⟩
    exact List.forall_mem_cons.mpr
      ⟨hrow first.label hbefore, List.forall_mem_singleton.mpr (hrow second.label hafter)⟩
  · exact gives_ok (.words _ _)

theorem gives_topGroupsIn {period : Period} (hperiod : period.Tellable) (h : Tellable rows)
    {grouping : Option Grouping} (hg : ∀ g, grouping = some g → g.IsKnown) {limit : Int}
    (hlimit : Number.isWritable limit = true) (title : String) :
    Gives (topGroupsIn rows period grouping limit title) Writable := by
  unfold topGroupsIn
  rw [hperiod.written]
  apply (gives_inPeriod hperiod h).bind
  intro inside hinside
  refine gives_ite (fun _ => gives_ok (writable_noDataFor _ _ _)) fun _ => ?_
  apply (gives_ranking hg hinside _ (.inr hlimit) _).map
  intro result hresult
  obtain ⟨-, hrows, hcolumns, hsections⟩ := hresult
  exact ⟨fit_cons (Cell.fits_figure (by decide) _) fit_nil, hrows, hcolumns, hsections⟩

theorem gives_topDates {period : Option Period} (hperiod : ∀ p, period = some p → p.Tellable)
    (h : Tellable rows) {limit : Int} (hlimit : Number.isWritable limit = true) :
    Gives (topDates rows period limit) Writable := by
  unfold topDates
  cases period with
  | none =>
    apply (gives_topTitle hlimit _).bind
    exact fun _ _ => gives_groupRanking (Grouping.isKnown_field _) h _ (.inr hlimit) _
  | some p =>
    simp only [(hperiod p rfl).written, ok_bind]
    apply (gives_topTitle hlimit _).bind
    exact fun _ _ => gives_topGroupsIn (hperiod p rfl) h
      (fun g hg => Option.some.inj hg ▸ Grouping.isKnown_field _) hlimit _

theorem gives_periodLeaders (label : String) (h : Tellable rows) (limit : Int) :
    Gives (periodLeaders label rows limit) Writable := by
  unfold periodLeaders
  exact gives_ite (fun _ => gives_ok (.noData _ _)) fun _ =>
    gives_groupRanking (Grouping.isKnown_field _) h _ (.inl ⟨rfl, rfl⟩) _

theorem gives_comparisonWithLeaders {first second : Period} (hfirst : first.Tellable)
    (hsecond : second.Tellable) (h : Tellable rows) (limit : Int) :
    Gives (comparisonWithLeaders rows first second limit) Writable := by
  unfold comparisonWithLeaders
  rw [hfirst.written, hsecond.written]
  apply gives_orNoData
  intro _
  apply (gives_inPeriod hfirst h).bind
  intro before hbefore
  apply (gives_inPeriod hsecond h).bind
  intro after hafter
  apply (gives_periodLeaders first.label hbefore limit).bind
  intro leadersBefore hleadersBefore
  apply (gives_periodLeaders second.label hafter limit).map
  intro leadersAfter hleadersAfter
  refine .ofSections (List.forall_mem_cons.mpr ⟨hleadersBefore, .pair hleadersAfter ?_⟩) rfl rfl
  refine .ofTotals ?_ rfl rfl
  exact fit_cons (Cell.fits_figure (by decide) _) <| fit_cons (Cell.fits_figure (by decide) _) <|
    fit_cons (fits_growthCell _ _) fit_nil

theorem writable_trend (rows : List (Record α)) : (trend rows).Writable := by
  unfold trend
  split
  · exact .noData _ _
  · refine .ofTotals ?_ rfl rfl
    exact fit_cons (Cell.fits_figure (by decide) _) <| fit_cons (Cell.fits_figure (by decide) _) <|
      fit_cons (Cell.fits_ofFigure? (by decide) _) <|
      fit_cons (Cell.fits_text (by decide) _) fit_nil

/-- Every operation with a plan that names groupings of the ledger, periods that can be told and a
limit that can be written succeeds. -/
theorem gives_execute (operation : Operation) (h : Tellable rows) {plan : Plan}
    (hg : ∀ g, plan.grouping = some g → g.IsKnown) (hlimit : Number.isWritable plan.limit = true)
    (hperiods : ∀ p ∈ plan.periods, p.Tellable) :
    Gives (execute operation rows plan) Writable := by
  have hnamed : ∀ g, plan.named? = some g → g.IsKnown := fun g hsome =>
    hg g (Option.filter_eq_some_iff.mp hsome).1
  unfold execute
  apply gives_orNoData
  intro _
  split
  · exact gives_breakdown (hnamed _ ‹_›) h _
  · exact gives_smartSummary h _
  · exact gives_smartSummary h _
  · exact gives_ranking hg h _ (.inr hlimit) _
  · exact gives_ranking hg h _ (.inr hlimit) _
  · exact gives_aggregate h _
  · exact gives_ok (writable_average _ _)
  · exact gives_count (fun g hsome => hnamed g hsome) h _
  · exact gives_comparison hperiods h _

end SalesDesk
