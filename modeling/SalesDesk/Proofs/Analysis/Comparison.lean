import SalesDesk.Analysis.Comparisons
import SalesDesk.Proofs.Analysis.Leader
import SalesDesk.Proofs.Ledger.Filtering

/-!
Two comparisons of the same two periods, one by totals and one by the customers of each period. They
tell the same revenues and the same growth, and the customers of a period account for its revenue.
-/
namespace SalesDesk

/-- The records that fall into a period. -/
def Period.kept {α : Type} (p : Period) (rows : List (Record α)) : List (Record α) :=
  rows.filter fun r => p.covers r.date

section
variable {α : Type} [Figure α] {rows : List (Record α)} {p q : Period}

/-- More records fall into no fewer groups. -/
theorem Grouped.length_le {key : Record α → Option GroupKey} {some all : List (Record α)}
    {gs gs' : List (Group α)} (h : Grouped key some gs) (h' : Grouped key all gs')
    (hsub : some ⊆ all) : gs.length ≤ gs'.length := by
  have hkeys : gs.map Group.key ⊆ gs'.map Group.key := by
    rw [h.keys, h'.keys]
    intro k hk
    obtain ⟨r, hr, hkey⟩ := List.mem_filterMap.mp (List.mem_eraseDups.mp hk)
    exact List.mem_eraseDups.mpr (List.mem_filterMap.mpr ⟨r, hsub hr, hkey⟩)
  simpa using (List.subperm_of_subset h.nodup_keys hkeys).length_le

/-- The section of a period: all customers of its records by falling revenue, if it has any. -/
structure ShowsCustomers (kept : List (Record α)) (leaders : Result α) : Prop where
  noData : leaders.kind = .noData ↔ kept = []
  rows : kept ≠ [] → ∃ gs, groups (Axis.column .customer).grouping kept = .ok gs ∧
    leaders.rows = (falling Group.revenue gs).map (Group.entryBy .revenue)

/-- A limit that all customers are within cuts none of them off in a period. -/
theorem periodLeaders_shown {limit : Int} {n : Nat}
    (hids : ∀ r ∈ rows, r.masterId.isCountable = true)
    (hn : groupCount (.column .customer) rows = .ok n) (hlimit : (n : Int) ≤ limit) (p : Period) :
    Gives (periodLeaders p.label (p.kept rows) limit) (ShowsCustomers (p.kept rows)) := by
  have hsub : p.kept rows ⊆ rows := fun r hr => (List.mem_filter.mp hr).1
  unfold periodLeaders
  by_cases hnone : p.kept rows = []
  · rw [hnone]
    exact gives_ok ⟨⟨fun _ => rfl, fun _ => rfl⟩, fun h => absurd rfl h⟩
  · have hsome : (p.kept rows).isEmpty = false := by simpa using hnone
    obtain ⟨all, hall, hgrouped⟩ := (Axis.column .customer).gives_grouped hids
    obtain ⟨gs, hgs, hgrouped'⟩ :=
      (Axis.column .customer).gives_grouped fun r hr => hids r (hsub hr)
    have hlength : ((falling Group.revenue gs).map (Group.entryBy .revenue)).length ≤
        limit.toNat := by
      obtain rfl := Except.ok.inj (hn.symm.trans (groupCount_of_groups hall))
      have hfewer := hgrouped'.length_le hgrouped hsub
      rw [List.length_map, length_falling]
      omega
    let style : RankingStyle := { limit, title := some (p.label ++ " Top Customers") }
    have hnonneg : 0 ≤ style.limit := Int.le_trans (Int.natCast_nonneg n) hlimit
    have huncut : style.shown ((falling Group.revenue gs).map (Group.entryBy .revenue)) =
        (falling Group.revenue gs).map (Group.entryBy .revenue) := List.take_of_length_le hlength
    have hshown := style.map_upTo_ranked hnonneg (Group.entryBy .revenue) Group.revenue gs
    rw [huncut] at hshown
    rw [hsome, groupRanking, hsome]
    change groups (.column .customer) _ = _ at hgs
    rw [hgs]
    refine gives_ok ⟨⟨fun hkind => ?_, fun h => absurd h hnone⟩, fun _ => ⟨gs, hgs, hshown⟩⟩
    cases hkind

/-- The row of a period in a comparison by totals. -/
def Period.row (p : Period) (kept : List (Record α)) : Entries (Cell α) := [
  ("label", .text p.label), ("revenue", .figure (revenueOf kept)),
  ("transactions", .count kept.length)]

theorem comparison_shown (hne : rows ≠ []) (hp : p.Tellable) (hq : q.Tellable)
    (filters : Entries String) :
    Gives (comparison rows [p, q] filters) fun table =>
      table.rows = [p.row (p.kept rows), q.row (q.kept rows)] ∧
        table.totals =
          [("growth", growthCell (revenueOf (p.kept rows)) (revenueOf (q.kept rows)))] := by
  have hrows : rows.isEmpty = false := by simpa using hne
  rw [comparison, hrows, Filter.inPeriod_some hp.known, Filter.inPeriod_some hq.known, hp.written,
    hq.written]
  exact gives_ok ⟨rfl, rfl⟩

structure ComparesCustomers (before after : List (Record α)) (report : Result α) : Prop where
  sections : ∃ leadersBefore leadersAfter summary,
    report.sections = [leadersBefore, leadersAfter, summary] ∧
    ShowsCustomers before leadersBefore ∧ ShowsCustomers after leadersAfter ∧
    summary.totals = [("revenue:0", .figure (revenueOf before)),
      ("revenue:1", .figure (revenueOf after)),
      ("growth", growthCell (revenueOf before) (revenueOf after))]

theorem comparisonWithLeaders_shown {limit : Int} {n : Nat} (hne : rows ≠ []) (hp : p.Tellable)
    (hq : q.Tellable) (hids : ∀ r ∈ rows, r.masterId.isCountable = true)
    (hn : groupCount (.column .customer) rows = .ok n) (hlimit : (n : Int) ≤ limit) :
    Gives (comparisonWithLeaders rows p q limit)
      (ComparesCustomers (p.kept rows) (q.kept rows)) := by
  have hrows : rows.isEmpty = false := by simpa using hne
  obtain ⟨leadersBefore, hbefore, hshown⟩ := periodLeaders_shown hids hn hlimit p
  obtain ⟨leadersAfter, hafter, hshown'⟩ := periodLeaders_shown hids hn hlimit q
  unfold Period.kept at hbefore hafter
  rw [comparisonWithLeaders, hrows, Filter.inPeriod_some hp.known, Filter.inPeriod_some hq.known,
    hp.written, hq.written]
  simp only [ok_bind, hbefore, hafter]
  exact gives_ok ⟨⟨_, _, _, rfl, hshown, hshown', rfl⟩⟩

/-- A comparison by totals fails where a year cannot be written. -/
theorem comparison_untold (hne : rows ≠ []) (hp : p.Known) (hq : q.Known)
    (h : ¬(p.Tellable ∧ q.Tellable)) (filters : Entries String) :
    comparison rows [p, q] filters = .error (.tooManyDigits none) := by
  have hrows : rows.isEmpty = false := by simpa using hne
  rw [comparison, hrows, Filter.inPeriod_some hp, Filter.inPeriod_some hq]
  by_cases htold : p.Tellable
  · rw [htold.written, hq.written_eq_error fun hq' => h ⟨htold, hq'⟩]
    rfl
  · rw [hp.written_eq_error htold]
    rfl

/-- The customers of the first period are found before the year of the second one is written. -/
theorem comparisonWithLeaders_untold {limit : Int} {n : Nat} (hne : rows ≠ []) (hp : p.Known)
    (hq : q.Known) (hids : ∀ r ∈ rows, r.masterId.isCountable = true)
    (hn : groupCount (.column .customer) rows = .ok n) (hlimit : (n : Int) ≤ limit)
    (h : ¬(p.Tellable ∧ q.Tellable)) :
    comparisonWithLeaders rows p q limit = .error (.tooManyDigits none) := by
  have hrows : rows.isEmpty = false := by simpa using hne
  rw [comparisonWithLeaders, hrows, Filter.inPeriod_some hp, Filter.inPeriod_some hq]
  by_cases htold : p.Tellable
  · obtain ⟨leaders, hleaders, -⟩ := periodLeaders_shown hids hn hlimit p
    unfold Period.kept at hleaders
    rw [htold.written, hq.written_eq_error fun hq' => h ⟨htold, hq'⟩]
    simp only [ok_bind, hleaders]
    rfl
  · rw [hp.written_eq_error htold]
    rfl

/-- Two comparisons of two periods are told, and what they tell is related. If the year of a period
cannot be written, both fail. -/
structure ComparedAlike (p q : Period) (x y : Except Fault (Result α))
    (Q : Result α → Result α → Prop) : Prop where
  told : p.Tellable → q.Tellable → Gives x fun table => Gives y (Q table)
  untold : ¬(p.Tellable ∧ q.Tellable) →
    x = .error (.tooManyDigits none) ∧ y = .error (.tooManyDigits none)

theorem comparisons_shown {limit : Int} {n : Nat} {Q : Result α → Result α → Prop}
    (hne : rows ≠ []) (hp : p.Known) (hq : q.Known)
    (hids : ∀ r ∈ rows, r.masterId.isCountable = true)
    (hn : groupCount (.column .customer) rows = .ok n) (hlimit : (n : Int) ≤ limit)
    (filters : Entries String)
    (hQ : ∀ table report, table.rows = [p.row (p.kept rows), q.row (q.kept rows)] →
      table.totals = [("growth", growthCell (revenueOf (p.kept rows)) (revenueOf (q.kept rows)))] →
      ComparesCustomers (p.kept rows) (q.kept rows) report → Q table report) :
    ComparedAlike p q (comparison rows [p, q] filters)
      (comparisonWithLeaders rows p q limit) Q where
  told hp' hq' := by
    apply (comparison_shown hne hp' hq' filters).mono
    rintro table ⟨hrows, htotals⟩
    apply (comparisonWithLeaders_shown hne hp' hq' hids hn hlimit).mono
    exact fun report => hQ table report hrows htotals
  untold h := ⟨comparison_untold hne hp hq h filters,
    comparisonWithLeaders_untold hne hp hq hids hn hlimit h⟩

structure PeriodAgrees (row : Entries (Cell α)) (leaders : Result α) (total : Option (Cell α)) :
    Prop where
  revenue : ∃ x, row.lookup "revenue" = some (.figure x) ∧ total = some (.figure x)
  noData : leaders.kind = .noData ↔ row.lookup "transactions" = some (.count 0)

/-- A comparison by totals and one by customers tell the same. -/
structure ComparisonsAgree (table report : Result α) : Prop where
  periods : ∃ before after leadersBefore leadersAfter summary growth,
    table.rows = [before, after] ∧ report.sections = [leadersBefore, leadersAfter, summary] ∧
    PeriodAgrees before leadersBefore (summary.totals.lookup "revenue:0") ∧
    PeriodAgrees after leadersAfter (summary.totals.lookup "revenue:1") ∧
    table.totals.lookup "growth" = some growth ∧ summary.totals.lookup "growth" = some growth

theorem ShowsCustomers.periodAgrees {kept : List (Record α)} {leaders : Result α}
    (h : ShowsCustomers kept leaders) (p : Period) :
    PeriodAgrees (p.row kept) leaders (some (.figure (revenueOf kept))) where
  revenue := ⟨_, rfl, rfl⟩
  noData := by
    have hlookup : (p.row kept).lookup "transactions" = some (.count kept.length) := rfl
    rw [h.noData, hlookup, Option.some.injEq, Cell.count.injEq, Int.natCast_eq_zero,
      List.length_eq_zero_iff]

theorem comparisonsAgree_of_parts {table report : Result α} {before after : List (Record α)}
    (hrows : table.rows = [p.row before, q.row after])
    (htotals : table.totals = [("growth", growthCell (revenueOf before) (revenueOf after))])
    (hreport : ComparesCustomers before after report) : ComparisonsAgree table report := by
  obtain ⟨leadersBefore, leadersAfter, summary, hsections, hbefore, hafter, hsummary⟩ :=
    hreport.sections
  refine ⟨_, _, _, _, _, _, hrows, hsections, ?_, ?_, by rw [htotals]; rfl, by rw [hsummary]; rfl⟩
  · rw [hsummary]
    exact hbefore.periodAgrees p
  · rw [hsummary]
    exact hafter.periodAgrees q

end

/-- Unless there is no data, the revenues of the customers of each period add up to the revenue in
the row of the period. -/
def CustomersAddUp (table report : Result Rat) : Prop :=
  ∀ period ∈ table.rows.zip report.sections, period.2.kind ≠ .noData →
    ∃ revenue revenues, period.1.lookup "revenue" = some (.figure revenue) ∧
      period.2.rows.map (·.lookup "revenue") = revenues.map (some ∘ .figure) ∧
      Figure.sum revenues = revenue

/-- The customers of a period account for its revenue. -/
theorem ShowsCustomers.sum_revenues {kept : List (Record Rat)} {leaders : Result Rat}
    (h : ShowsCustomers kept leaders) (hids : ∀ r ∈ kept, r.masterId.isCountable = true)
    (hkind : leaders.kind ≠ .noData) :
    ∃ revenues, leaders.rows.map (·.lookup "revenue") = revenues.map (some ∘ .figure) ∧
      Figure.sum revenues = revenueOf kept := by
  obtain ⟨gs, hgs, hrows⟩ := h.rows fun hnone => hkind (h.noData.mpr hnone)
  obtain ⟨gs', hgs', hgrouped⟩ := (Axis.column .customer).gives_grouped hids
  obtain rfl := Except.ok.inj (hgs.symm.trans hgs')
  refine ⟨(falling Group.revenue gs).map Group.revenue, ?_, ?_⟩
  · rw [hrows, List.map_map, List.map_map]
    rfl
  · have hperm : (falling Group.revenue gs).Perm gs := List.mergeSort_perm gs _
    rw [Figure.sum_perm (hperm.map _), hgrouped.sum_revenue fun _ _ => rfl]

theorem customersAddUp_of_parts {p q : Period} {table report : Result Rat}
    {before after : List (Record Rat)} (hrows : table.rows = [p.row before, q.row after])
    (hreport : ComparesCustomers before after report)
    (hbefore : ∀ r ∈ before, r.masterId.isCountable = true)
    (hafter : ∀ r ∈ after, r.masterId.isCountable = true) : CustomersAddUp table report := by
  obtain ⟨leadersBefore, leadersAfter, summary, hsections, hshown, hshown', -⟩ := hreport.sections
  intro period hperiod hkind
  rw [hrows, hsections] at hperiod
  simp only [List.zip_cons_cons, List.zip_nil_left, List.mem_cons, List.not_mem_nil,
    or_false] at hperiod
  rcases hperiod with rfl | rfl
  · obtain ⟨revenues, hlisted, hsum⟩ := hshown.sum_revenues hbefore hkind
    exact ⟨_, revenues, rfl, hlisted, hsum⟩
  · obtain ⟨revenues, hlisted, hsum⟩ := hshown'.sum_revenues hafter hkind
    exact ⟨_, revenues, rfl, hlisted, hsum⟩

/-- The two comparisons of any two periods agree if no customer is cut off, on doubles and on
rationals. Where arithmetic is exact, the customers of each period add up to its revenue. Both fail
alike for a year that is too long to be written. -/
theorem comparisons_agree {p q : Period} (hp : p.Known) (hq : q.Known) (limit : Int)
    (filters : Entries String) :
    (∀ (rows : List (Record Float)) (n : Nat), rows ≠ [] →
      (∀ r ∈ rows, r.masterId.isCountable = true) →
      groupCount (.column .customer) rows = .ok n → (n : Int) ≤ limit →
      ComparedAlike p q (comparison rows [p, q] filters) (comparisonWithLeaders rows p q limit)
        ComparisonsAgree) ∧
    (∀ (rows : List (Record Rat)) (n : Nat), rows ≠ [] →
      (∀ r ∈ rows, r.masterId.isCountable = true) →
      groupCount (.column .customer) rows = .ok n → (n : Int) ≤ limit →
      ComparedAlike p q (comparison rows [p, q] filters) (comparisonWithLeaders rows p q limit)
        fun table report => ComparisonsAgree table report ∧ CustomersAddUp table report) := by
  constructor
  · intro rows n hne hids hn hlimit
    apply comparisons_shown hne hp hq hids hn hlimit filters
    intro table report hrows htotals hreport
    exact comparisonsAgree_of_parts hrows htotals hreport
  · intro rows n hne hids hn hlimit
    have hkept : ∀ (period : Period), ∀ r ∈ period.kept rows, r.masterId.isCountable = true :=
      fun _ r hr => hids r (List.mem_filter.mp hr).1
    apply comparisons_shown hne hp hq hids hn hlimit filters
    intro table report hrows htotals hreport
    exact ⟨comparisonsAgree_of_parts hrows htotals hreport,
      customersAddUp_of_parts hrows hreport (hkept p) (hkept q)⟩

/-- A month with sales beside one without. -/
theorem comparisons_agree_namelessSales :
    Period.Known { month := some "april" } ∧ Period.Known { month := some "june" } ∧
      (namelessSales (α := Float) ≠ [] ∧
        (∀ r ∈ namelessSales (α := Float), r.masterId.isCountable = true) ∧
        groupCount (.column .customer) (namelessSales (α := Float)) = .ok 2 ∧
        Gives (comparison (namelessSales (α := Float))
          [{ month := some "april" }, { month := some "june" }] []) fun table =>
          Gives (comparisonWithLeaders (namelessSales (α := Float)) { month := some "april" }
            { month := some "june" } 2) fun report => ComparisonsAgree table report) ∧
      (namelessSales (α := Rat) ≠ [] ∧
        (∀ r ∈ namelessSales (α := Rat), r.masterId.isCountable = true) ∧
        groupCount (.column .customer) (namelessSales (α := Rat)) = .ok 2 ∧
        Gives (comparison (namelessSales (α := Rat))
          [{ month := some "april" }, { month := some "june" }] []) fun table =>
          Gives (comparisonWithLeaders (namelessSales (α := Rat)) { month := some "april" }
            { month := some "june" } 2) fun report =>
            ComparisonsAgree table report ∧ CustomersAddUp table report) := by
  have hapril : Period.Tellable { month := some "april" } :=
    ⟨⟨some 4, rfl⟩, Period.isWritable_year nofun⟩
  have hjune : Period.Tellable { month := some "june" } :=
    ⟨⟨some 6, rfl⟩, Period.isWritable_year nofun⟩
  have hids {α : Type} [Figure α] : ∀ r ∈ namelessSales (α := α), r.masterId.isCountable = true :=
    fun r hr => (haveIds_namelessSales r hr).1
  have hagree := comparisons_agree hapril.known hjune.known 2 []
  have hdoubles := hagree.1 namelessSales 2 namelessSales_ne_nil hids rfl (Int.le_refl 2)
  have hrationals := hagree.2 namelessSales 2 namelessSales_ne_nil hids rfl (Int.le_refl 2)
  exact ⟨hapril.known, hjune.known,
    ⟨namelessSales_ne_nil, hids, rfl, hdoubles.told hapril hjune⟩,
    namelessSales_ne_nil, hids, rfl, hrationals.told hapril hjune⟩

/-- Ids that are lists cannot be counted, so that no customers can be compared, though the revenues
can. A month that is none of the calendar cannot be compared at all, and neither can a year of 4301
digits. -/
theorem no_comparison_for_lists :
    (∃ d, Dataset.ofRecords listedOrders (some .empty) = .ok d ∧ d.table = listedOrders) ∧
      listedOrders ≠ [] ∧ (∀ r ∈ listedOrders, r.amount.isFinite = true) ∧
      groupCount (.column .customer) listedOrders = .ok 2 ∧
      (Gives (comparison listedOrders [{ month := some "april" }, { month := some "may" }] [])
        fun table => table.rows.length = 2) ∧
      comparisonWithLeaders listedOrders { month := some "april" } { month := some "may" } 2 =
        .error (.uncountable "list") ∧
      (∀ r ∈ namelessSales (α := Float), r.amount.isFinite = true) ∧
      comparison (namelessSales (α := Float)) [{ month := some "smarch" }, { month := some "may" }]
        [] = .error (.unknownMonth "smarch") ∧
      comparison (namelessSales (α := Float))
        [{ year := some Number.leastTooLong }, { month := some "may" }] [] =
        .error (.tooManyDigits none) := by
  have hapril : Period.Tellable { month := some "april" } :=
    ⟨⟨some 4, rfl⟩, Period.isWritable_year nofun⟩
  have hmay : Period.Tellable { month := some "may" } :=
    ⟨⟨some 5, rfl⟩, Period.isWritable_year nofun⟩
  refine ⟨⟨_, rfl, rfl⟩, List.cons_ne_nil _ _, ?_, rfl, ?_, ?_, ?_, rfl, ?_⟩
  · decide +kernel
  · apply (comparison_shown (List.cons_ne_nil _ _) hapril hmay []).mono
    rintro table ⟨hrows, -⟩
    rw [hrows]
    rfl
  · rw [comparisonWithLeaders, hapril.written, hmay.written]
    rfl
  · decide +kernel
  · have hyear : Period.Known { year := some Number.leastTooLong } := ⟨none, rfl⟩
    exact comparison_untold namelessSales_ne_nil hyear hmay.known
      (fun h => Period.not_tellable rfl Number.not_isWritable_leastTooLong h.1) []

end SalesDesk
