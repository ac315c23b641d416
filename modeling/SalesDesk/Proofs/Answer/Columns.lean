import SalesDesk.Answer.Columns
import SalesDesk.Proofs.Answer.Tells

/-! Top lists, and questions about one column of the ledger, never fail. -/
namespace SalesDesk

variable {α : Type} [Figure α] {r : Request α}

open Entries Result

namespace Answer

theorem isWritable_columnDefault : Number.isWritable columnDefault = true :=
  Number.isWritable_of_lt_word (by decide)

theorem gives_topList {rows : List (Record α)} {grouping : Grouping} (hg : grouping.IsKnown)
    (h : Tellable rows) (noun : String) {limit : Int} (hlimit : Number.isWritable limit = true) :
    Gives (topList grouping noun limit rows) Writable :=
  (gives_topTitle hlimit _).bind fun _ _ => gives_groupRanking hg h _ (.inr hlimit) _

theorem tells_topList {rows : List (Record α)} {grouping : Grouping} (hg : grouping.IsKnown)
    (h : Tellable rows) (noun : String) {limit : Int} (hlimit : Number.isWritable limit = true) :
    Tells (do return some (← topList grouping noun limit rows)) :=
  (gives_topList hg h noun hlimit).told

/-- A list of records is named by its limit and its subject, or by its range alone. -/
theorem exists_topRecords_eq {limit : Int} (hlimit : Number.isWritable limit = true)
    (subject : Option String) (dimension : Dimension) (rows : List (Record α)) :
    ∃ title, topRecords subject dimension limit rows =
      .ok (topTransactions rows { limit, title, layout := .list } (some dimension)) := by
  cases subject with
  | none => exact ⟨none, transactionRanking_of_isWritable hlimit⟩
  | some subject =>
    refine ⟨some (RankingStyle.rangeText { limit } ++ " " ++ subject), ?_⟩
    rw [topRecords, Option.mapM_some, topTitle_of_isWritable hlimit]
    exact transactionRanking_of_isWritable hlimit

theorem gives_topRecords {limit : Int} (hlimit : Number.isWritable limit = true)
    (subject : Option String) (dimension : Dimension) (rows : List (Record α)) :
    Gives (topRecords subject dimension limit rows) Writable := by
  obtain ⟨title, hrecords⟩ := exists_topRecords_eq hlimit subject dimension rows
  exact ⟨_, hrecords, writable_topTransactions _ _ _⟩

theorem tells_namedTop? {rows : List (Record α)} (h : Tellable rows) {limit : Int}
    (hlimit : Number.isWritable limit = true) : Tells (namedTop? r limit rows) := by
  unfold namedTop?
  refine tells_ite (fun _ => (gives_topRecords hlimit _ _ _).told) fun _ =>
    tells_ite (fun _ => tells_topList (Grouping.isKnown_field _) h _ hlimit) fun _ =>
    tells_ite (fun _ => tells_topList (Grouping.isKnown_field _) h _ hlimit) fun _ =>
    tells_ite (fun _ => (gives_topRecords hlimit _ _ _).told) fun _ => tells_none

theorem tells_complexTop (h : r.Sound) : Tells (complexTop r) := by
  unfold complexTop
  split
  · exact tells_none
  · rename_i hstated
    refine tells_ite (fun _ => tells_none) fun _ => h.gives_dated.bind fun scope hscope => ?_
    apply (tells_namedTop? hscope (h.stated _ hstated)).bind
    intro answer hanswer
    cases answer with
    | none => exact tells_none
    | some result => exact tells_some ((hanswer result rfl).retitle rfl rfl rfl rfl)

theorem gives_topAlong {rows : List (Record α)} (h : Tellable rows) (dimension : Dimension)
    {limit : Int} (hlimit : Number.isWritable limit = true) :
    Gives (topAlong dimension limit rows) Writable := by
  cases dimension with
  | stockGroup | customer | product | date =>
    exact gives_topList (Grouping.isKnown_field _) h _ hlimit
  | transaction | masterId | isSale => exact gives_topRecords hlimit _ _ _

theorem tells_followUp (h : r.Sound) : Tells (followUp r) := by
  unfold followUp
  split
  · rename_i hstated _ _
    refine tells_ite (fun _ => tells_none) fun _ => tells_ite (fun _ => tells_none) fun _ => ?_
    apply h.gives_dated.bind
    intro scope hscope
    exact (gives_topAlong hscope _ (h.stated _ hstated)).tells fun _ hresult =>
      hresult.retitle rfl rfl rfl rfl
  · exact tells_none

theorem gives_perCount? {n : Int} (h : n.natAbs < 0x8000000000000000) (x : α) :
    Gives (perCount? x n) fun _ => True := by
  have hfits : Value.fitsWord n = true := by
    simp only [Value.fitsWord, Bool.and_eq_true, decide_eq_true_eq]
    omega
  unfold perCount?
  exact gives_ite (fun _ => gives_ok trivial) fun _ =>
    gives_ite (fun _ => gives_ok trivial) fun hnot => absurd hfits hnot

theorem gives_keyCell {rows : List (Record α)} (h : Tellable rows) (k : KeyFigure) :
    Gives (k.cell rows) fun c => c.Fits k.name := by
  have haverage : ∀ {name : String} (x : α), Format.isCount name = false →
      Gives (do return .ofFigure? (← perCount? x (← orderCount rows)))
        fun c : Cell α => c.Fits name := by
    intro name x hname
    apply (gives_orderCount h).bind
    intro n hn
    have hsize := h.size
    exact (gives_perCount? (by omega) x).map fun _ _ => Cell.fits_ofFigure? hname _
  cases k with
  | total t => exact gives_totalCell h t
  | averageOrder => exact haverage _ (by decide)
  | averageQuantity => exact haverage _ (by decide)

/-- Key figures can be told if the given ones fit under their names. -/
theorem tells_figures (h : r.Sound) (operation : String) {overall : List (KeyFigure × Cell α)}
    (hoverall : Fit (overall.map fun (k, v) => (k.name, v))) (labels : Entries String) :
    Tells (do return some (← figures r operation overall labels)) := by
  apply Gives.told
  unfold figures
  apply h.gives_named.bind
  intro scope hscope
  refine gives_ite (fun _ => gives_ok (.ofTotals hoverall rfl rfl)) fun _ =>
    gives_ite (fun _ => gives_ok (writable_noDataFor _ _ _)) fun _ => ?_
  apply (gives_orderCount hscope).bind
  intro _ _
  have hentry : ∀ e ∈ overall, Gives (do return (e.1.name, ← e.1.cell scope.rows))
      fun found : String × Cell α => found.2.Fits found.1 := fun e _ =>
    (gives_keyCell hscope e.1).map fun _ hc => hc
  exact (gives_mapM hentry).map fun _ hfit => .ofTotals hfit.2 rfl rfl

theorem tells_leaderAnswer {rows : List (Record α)} (h : Tellable rows) (column : Column)
    (noun : String) (dimension : Option Dimension) (note : String) (withCount : Bool) :
    Tells (do return some (← leaderAnswer column noun dimension note withCount rows)) := by
  apply Gives.told
  unfold leaderAnswer
  apply (gives_leader? (Grouping.isKnown_field _) h).bind
  intro found hfound
  match found, hfound with
  | none, _ => exact gives_ok (.noData _ _)
  | some (key, revenue, groups), hfound =>
    refine gives_ok (.ofTotals ?_ rfl rfl)
    have hrevenue : Fit [("revenue", (.figure revenue : Cell α))] :=
      fit_cons (Cell.fits_figure (by decide) _) fit_nil
    cases withCount with
    | false => exact hrevenue
    | true => exact fit_cons (h.fits_count (hfound _ rfl) _) hrevenue

theorem tells_masterIds (h : r.Sound) : Tells (masterIds r) := by
  unfold masterIds
  refine tells_ite (fun _ => tells_none) fun _ => tells_ite (fun _ => ?_) fun _ =>
    tells_ite (fun _ => (gives_topRecords (h.isWritable_getD isWritable_columnDefault) _ _ _).told)
      fun _ => tells_none
  refine (gives_orderCount h.dataset.tellable).tells fun n hn => .ofTotals ?_ rfl rfl
  exact fit_cons (h.dataset.tellable.fits_count hn _) fit_nil

theorem tells_sales (h : r.Sound) : Tells (sales r) := by
  unfold sales
  apply tells_orNone
  intro _
  have hkeep : ∀ mode, Gives (Filter.applyAll [Filter.ofSale mode] r.rows) Tellable := fun mode =>
    ⟨_, Filter.applyAll_ofSale mode r.rows, h.dataset.tellable.filter _⟩
  refine (hkeep .keep).bind fun sales hsales => (hkeep .drop).bind fun others hothers => ?_
  refine tells_ite (fun _ => tells_some (.ofTotals ?_ rfl rfl)) fun _ =>
    tells_ite (fun _ => tells_some (.ofTotals ?_ rfl rfl)) fun _ => tells_none
  · exact fit_cons (hsales.fits_count (Nat.le_refl _) _) <|
      fit_cons (hothers.fits_count (Nat.le_refl _) _) fit_nil
  · exact fit_cons (Cell.fits_figure (by decide) _) <|
      fit_cons (Cell.fits_figure (by decide) _) fit_nil

theorem tells_days (h : r.Sound) : Tells (days r) := by
  unfold days
  refine tells_ite (fun _ => tells_none) fun _ => tells_ite (fun _ => ?_) fun _ =>
    tells_ite (fun _ => tells_topList (Grouping.isKnown_field _) h.dataset.tellable _
      (h.isWritable_getD isWritable_columnDefault)) fun _ => tells_none
  exact h.gives_days.tells fun _ _ =>
    .ofTotals (fit_cons trivial (fit_cons trivial fit_nil)) rfl rfl

theorem tells_allMonths (h : r.Sound) : Tells (do return some (← allMonths r)) := by
  have hmonths : Gives (allMonths r) Writable :=
    (gives_breakdown Grouping.isKnown_month h.dataset.tellable _).map fun _ hresult =>
      hresult.retitle rfl rfl rfl rfl
  exact hmonths.told

theorem tells_months (h : r.Sound) : Tells (months r) :=
  tells_ite (fun _ => tells_allMonths h) fun _ => tells_none

theorem tells_revenue (h : r.Sound) : Tells (revenue r) := by
  unfold revenue
  refine tells_ite (fun _ => tells_none) fun _ => tells_ite (fun _ => ?_) fun _ =>
    tells_ite (fun _ => ?_) fun _ => tells_ite (fun _ => ?_) fun _ => tells_none
  · refine tells_figures h _ ?_ _
    exact fit_cons (Cell.fits_figure (by decide) _) <| fit_cons (h.fits_size _) fit_nil
  · refine tells_figures h _ ?_ _
    exact fit_cons (Cell.fits_figure (by decide) _) <| fit_cons (h.fits_orders _) fit_nil
  · apply h.gives_named.bind
    intro scope _
    exact tells_ite (fun _ => tells_some (writable_noDataFor _ _ _)) fun _ =>
      tells_some ((writable_topTransactions _ _ _).retitle rfl rfl rfl rfl)

theorem tells_orders (h : r.Sound) : Tells (orders r) := by
  unfold orders
  refine tells_ite (fun _ => tells_none) fun _ => tells_ite (fun _ => ?_) fun _ => tells_none
  refine tells_figures h _ ?_ _
  exact fit_cons (h.fits_orders _) <| fit_cons (Cell.fits_figure (by decide) _) fit_nil

theorem tells_customers (h : r.Sound) : Tells (customers r) := by
  unfold customers
  refine tells_ite (fun _ => tells_none) fun _ => tells_ite (fun _ => ?_) fun _ =>
    tells_ite (fun _ => ?_) fun _ => tells_none
  · refine tells_figures h _ ?_ _
    exact fit_cons (h.fits_customers _) <| fit_cons (Cell.fits_figure (by decide) _) fit_nil
  · split
    · exact tells_topList (Grouping.isKnown_field _) h.dataset.tellable _ (h.stated _ ‹_›)
    · exact tells_leaderAnswer h.dataset.tellable _ _ _ _ _

theorem tells_products (h : r.Sound) : Tells (products r) := by
  unfold products
  refine tells_ite (fun _ => tells_none) fun _ => tells_ite (fun _ => ?_) fun _ =>
    tells_ite (fun _ => ?_) fun _ => tells_none
  · split
    · exact tells_topList (Grouping.isKnown_field _) h.dataset.tellable _ (h.stated _ ‹_›)
    · exact tells_leaderAnswer h.dataset.tellable _ _ _ _ _
  · refine tells_figures h _ ?_ _
    exact fit_cons (h.dataset.tellable.fits_count (nameCount_le .item _) _) <|
      fit_cons (Cell.fits_figure (by decide) _) fit_nil

theorem tells_quantities (h : r.Sound) : Tells (quantities r) := by
  unfold quantities
  apply tells_orNone
  intro _
  apply (gives_perCount? h.dataset.orders _).bind
  intro average _
  refine tells_figures h _ ?_ _
  exact fit_cons (Cell.fits_figure (by decide) _) <|
    fit_cons (h.fits_orders _) <| fit_cons (Cell.fits_ofFigure? (by decide) _) fit_nil

theorem tells_stockGroups (h : r.Sound) : Tells (stockGroups r) := by
  unfold stockGroups
  apply tells_orNone
  intro _
  split
  · exact tells_topList (Grouping.isKnown_field _) h.dataset.tellable _ (h.stated _ ‹_›)
  · exact tells_ite (fun _ => tells_none) fun _ =>
      tells_leaderAnswer h.dataset.tellable _ _ _ _ _

theorem tells_regions (h : r.Sound) : Tells (regions r) :=
  tells_ite (fun _ => tells_none) fun _ => tells_ite (fun _ => tells_none) fun _ =>
    tells_leaderAnswer h.dataset.tellable _ _ _ _ _

theorem tells_periods (h : r.Sound) : Tells (periods r) := by
  unfold periods
  apply tells_orNone
  intro _
  split
  · rename_i p hp
    have hp' : p.Tellable := Query.tellable_of_firstPeriod? hp
    have hrows : Gives (Filter.applyAll [Filter.ofPeriod p] r.rows) Tellable :=
      ⟨_, Filter.applyAll_ofPeriod hp'.known _, h.dataset.tellable.filter _⟩
    rw [hp'.written]
    apply hrows.bind
    intro rows htellable
    refine tells_ite (fun _ => tells_some (writable_noDataFor _ _ _)) fun _ => ?_
    exact (gives_entitySummary htellable _ _ _ _).told
  · refine h.gives_days.tells fun span hspan => .ofTotals ?_ rfl rfl
    exact fit_cons trivial <| fit_cons trivial <| fit_cons (fits_monthsBetween hspan.1 hspan.2 _) <|
      fit_cons (Cell.fits_figure (by decide) _) fit_nil

end Answer

end SalesDesk
