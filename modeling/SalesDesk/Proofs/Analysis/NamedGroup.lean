import SalesDesk.Analysis.Summaries
import SalesDesk.Proofs.Analysis.Breakdown
import SalesDesk.Proofs.Answer.HeldNames

/-!
Two ways to the figures of a name: its row in a breakdown of all records, and the totals of the
records that a filter on the name keeps. Both show the same.
-/
namespace SalesDesk

def isLabelled {α : Type} (name : String) (row : Entries (Cell α)) : Bool :=
  match row.lookup "label" with
  | some (.text s) => s == name
  | _ => false

def ShowAlike {α : Type} (names : List String) (row totals : Entries (Cell α)) : Prop :=
  ∀ name ∈ names, ∃ c, row.lookup name = some c ∧ totals.lookup name = some c

section
variable {α : Type} {name : String}

theorem GroupKey.ofName_eq_iff (hne : name ≠ "") (hknown : name ≠ unknownName) (s : String) :
    ofName s = .name name ↔ s = name := by
  unfold ofName
  by_cases hs : s = ""
  · simp [hs, hne.symm, hknown.symm]
  · simp [hs]

/-- The group of a name consists of the records that a filter on the name keeps. -/
theorem membersOf_keyOf (hne : name ≠ "") (hknown : name ≠ unknownName) (column : Column)
    (rows : List (Record α)) :
    membersOf (fun r => some ((Axis.column column).keyOf r)) rows (.name name) =
      rows.filter (·.named column == name) := by
  unfold membersOf
  apply List.filter_congr
  intro r _
  rw [Bool.eq_iff_iff, beq_iff_eq, Option.some.injEq, beq_iff_eq]
  exact GroupKey.ofName_eq_iff hne hknown _

theorem isLabelled_row {g : Group α} {s : String} (h : g.key = .name s) :
    isLabelled name g.row = (g.key == .name name) := by
  have hlabel : g.row.lookup "label" = some (.text s) := by
    rw [Group.row, h]
    rfl
  rw [isLabelled, hlabel, h, Bool.eq_iff_iff]
  simp

variable [Figure α] {rows : List (Record α)} {gs ordered : List (Group α)}

/-- A key that occurs has one group, however the groups are ordered. -/
theorem Grouped.filter_key {key : Record α → Option GroupKey} (h : Grouped key rows gs)
    (hperm : ordered.Perm gs) {k : GroupKey} (hk : k ∈ rows.filterMap key) :
    ∃ g ∈ gs, g.key = k ∧ ordered.filter (·.key == k) = [g] := by
  have hkeys : (ordered.map Group.key).Nodup := (hperm.map _).nodup_iff.mpr h.nodup_keys
  have hmem : k ∈ ordered.map Group.key := by
    rwa [(hperm.map Group.key).mem_iff, h.keys, List.mem_eraseDups]
  have hone : (ordered.filter (·.key == k)).map Group.key = [k] := by
    have hfound : (ordered.map Group.key).filter (· == k) = [k] := by
      rw [List.filter_beq, List.count_eq_one_of_mem hkeys hmem]
      rfl
    rwa [List.filter_map] at hfound
  obtain ⟨g, hg, hkey⟩ := List.map_eq_singleton_iff.mp hone
  have hin : g ∈ ordered.filter (·.key == k) := by
    rw [hg]
    exact List.mem_singleton_self g
  exact ⟨g, hperm.mem_iff.mp (List.mem_filter.mp hin).1, hkey, hg⟩

/-- A name that records have is that of one row. -/
theorem Grouped.filter_isLabelled {column : Column}
    (h : Grouped (fun r => some ((Axis.column column).keyOf r)) rows gs) (hperm : ordered.Perm gs)
    (hne : name ≠ "") (hknown : name ≠ unknownName) (hname : ∃ r ∈ rows, r.named column = name) :
    ∃ g ∈ gs, g.key = .name name ∧ (ordered.map Group.row).filter (isLabelled name) = [g.row] := by
  have hk : GroupKey.name name ∈ rows.filterMap fun r => some ((Axis.column column).keyOf r) := by
    obtain ⟨r, hr, hrow⟩ := hname
    have hkey : (Axis.column column).keyOf r = .name name :=
      (GroupKey.ofName_eq_iff hne hknown _).mpr hrow
    exact List.mem_filterMap.mpr ⟨r, hr, congrArg some hkey⟩
  obtain ⟨g, hg, hkey, hone⟩ := h.filter_key hperm hk
  refine ⟨g, hg, hkey, ?_⟩
  have hlabels : ∀ g' ∈ ordered, (isLabelled name ∘ Group.row) g' = (g'.key == .name name) := by
    intro g' hg'
    obtain ⟨r, -, hr⟩ := h.exists_keyOf (hperm.mem_iff.mp hg')
    exact isLabelled_row hr.symm
  rw [List.filter_map, List.filter_congr hlabels, hone]
  rfl

def totalsOf (rows : List (Record α)) (orders : Nat) : Entries (Cell α) := [
  ("revenue", .figure (revenueOf rows)), ("quantity", .figure (quantityOf rows)),
  ("orders", .count orders), ("transactions", .count rows.length),
  ("customers", .count (nameCount .customer rows))]

theorem gives_aggregate_of_orderCount {n : Nat} (hne : rows ≠ []) (hn : orderCount rows = .ok n)
    (filters : Entries String) : Gives (aggregate rows filters) (·.totals = totalsOf rows n) := by
  have hrows : rows.isEmpty = false := by simpa using hne
  unfold aggregate
  rw [hrows]
  simp only [totals, List.mapM_cons, List.mapM_nil, Total.cell, hn]
  exact gives_ok rfl

/-- Orders and transactions are counted alike, however figures are added. -/
theorem Group.IsOf.showAlike_counts {addAmounts addQuantities : List α → α}
    {members : List (Record α)} {g : Group α} (h : g.IsOf addAmounts addQuantities members) :
    ShowAlike ["orders", "transactions"] g.row (totalsOf members g.orders) := by
  intro figure hfigure
  simp only [List.mem_cons, List.not_mem_nil, or_false] at hfigure
  rcases hfigure with rfl | rfl
  · exact ⟨_, rfl, rfl⟩
  · exact ⟨.count g.transactions, rfl, by rw [h.transactions]; rfl⟩

/-- The row of a name in a breakdown of all records, of which there is one, shows under some names
the same figures as the totals of the records that a filter on the name keeps. -/
def RowIsAggregate (figures : List String) (column : Column) (name : String)
    (rows : List (Record α)) : Prop :=
  ∀ filters : Entries String,
    ∃ kept row, Filter.applyAll (Filter.ofMentions [(column, name)] none) rows = .ok kept ∧
      Gives (breakdown (.column column) rows filters)
        (·.rows.filter (isLabelled name) = [row]) ∧
      Gives (aggregate kept filters) fun summary => ShowAlike figures row summary.totals

theorem rowIsAggregate_of_showAlike {figures : List String} {column : Column} (hne : name ≠ "")
    (hknown : name ≠ unknownName) (hname : ∃ r ∈ rows, r.named column = name)
    (hids : ∀ r ∈ rows, r.masterId.isCountable = true)
    (hfigures : ∀ (together : Bool) (members : List (Record α)) (g : Group α),
      g.IsOf (columnSum together (rows.map (·.amount))) (columnSum together (rows.map (·.quantity)))
        members → ShowAlike figures g.row (totalsOf members g.orders)) :
    RowIsAggregate figures column name rows := by
  intro filters
  let kept := rows.filter (·.named column == name)
  have hkept : kept ≠ [] := by
    obtain ⟨r, hr, hrow⟩ := hname
    exact List.ne_nil_of_mem (List.mem_filter.mpr ⟨hr, by simpa using hrow⟩)
  have happly : Filter.applyAll (Filter.ofMentions [(column, name)] none) rows = .ok kept := by
    have hnone : ∀ p : Period, none = some p → p.Known := fun _ h => nomatch h
    rw [Filter.applyAll_ofMentions _ hnone]
    exact congrArg Except.ok (List.filter_congr fun r _ => by simp [Filter.accepts])
  obtain ⟨gs, hgroups, hgrouped⟩ := (Axis.column column).gives_grouped hids
  obtain ⟨g, hg, hlabel, hrow⟩ :=
    hgrouped.filter_isLabelled ((Axis.column column).ordered_perm gs) hne hknown hname
  have hfig := hgrouped.figures g hg
  rw [hlabel, membersOf_keyOf hne hknown] at hfig
  have hrows : rows ≠ [] := List.ne_nil_of_mem hname.choose_spec.1
  refine ⟨kept, g.row, happly, ?_, ?_⟩
  · apply (breakdown_of_groups hrows hgroups filters).mono
    intro table htable
    rw [htable, hrow]
  · apply (gives_aggregate_of_orderCount hkept hfig.orders filters).mono
    intro summary hsummary
    rw [hsummary]
    exact hfigures _ _ g hfig

end

theorem Group.IsOf.showAlike {members : List (Record Rat)} {g : Group Rat}
    (h : g.IsOf Figure.sum Figure.sum members) :
    ShowAlike ["revenue", "quantity", "orders", "transactions"] g.row
      (totalsOf members g.orders) := by
  intro figure hfigure
  rcases List.mem_cons.mp hfigure with rfl | hfigure
  · exact ⟨.figure g.revenue, rfl, by rw [h.revenue, ← Figure.total_eq]; rfl⟩
  rcases List.mem_cons.mp hfigure with rfl | hfigure
  · exact ⟨.figure g.quantity, rfl, by rw [h.quantity, ← Figure.total_eq]; rfl⟩
  exact h.showAlike_counts figure hfigure

/-- Ids can be told apart if they were counted, or else are said to. -/
theorem Dataset.isCountable_table {α : Type} [Figure α] {records : List (Record α)}
    {metrics : Option (Metrics α)} {d : Dataset α} (hd : ofRecords records metrics = .ok d)
    (hids : metrics.isSome = true → ∀ r ∈ d.table, r.masterId.isCountable = true) :
    ∀ r ∈ d.table, r.masterId.isCountable = true := by
  cases metrics with
  | none => exact isCountable_of_ofRecords hd
  | some given => exact hids rfl

theorem Dataset.ne_empty_of_mem_values {α : Type} [Figure α] {records : List (Record α)}
    {metrics : Option (Metrics α)} {d : Dataset α} {column : Column} {name : String}
    (hd : ofRecords records metrics = .ok d) (h : name ∈ d.vocabulary.values column) :
    name ≠ "" := by
  obtain ⟨-, -, hvocabulary⟩ := records_of_ofRecords hd
  exact (Vocabulary.exists_of_mem_values (hvocabulary ▸ h)).1

/-- A name of the vocabulary has one row in the breakdown of all records, with the figures that the
records have which a filter on it keeps: the counts on doubles and on rationals, and the sums as
well where arithmetic is exact. -/
theorem row_is_aggregate (column : Column) (name : String) (hknown : name ≠ unknownName) :
    (∀ (records : List (Record Float)) (metrics : Option (Metrics Float)) (d : Dataset Float),
      Dataset.ofRecords records metrics = .ok d →
      (metrics.isSome = true → ∀ r ∈ d.table, r.masterId.isCountable = true) →
      name ∈ d.vocabulary.values column →
      RowIsAggregate ["orders", "transactions"] column name d.table) ∧
    (∀ (records : List (Record Rat)) (metrics : Option (Metrics Rat)) (d : Dataset Rat),
      Dataset.ofRecords records metrics = .ok d →
      (metrics.isSome = true → ∀ r ∈ d.table, r.masterId.isCountable = true) →
      name ∈ d.vocabulary.values column →
      RowIsAggregate ["revenue", "quantity", "orders", "transactions"] column name d.table) := by
  constructor
  · intro records metrics d hd hids hname
    have hrow := (Dataset.holds_of_mem_values hd hname).row
    exact rowIsAggregate_of_showAlike (Dataset.ne_empty_of_mem_values hd hname) hknown hrow
      (Dataset.isCountable_table hd hids) fun _ _ _ h => h.showAlike_counts
  · intro records metrics d hd hids hname
    have hrow := (Dataset.holds_of_mem_values hd hname).row
    apply rowIsAggregate_of_showAlike (Dataset.ne_empty_of_mem_values hd hname) hknown hrow
      (Dataset.isCountable_table hd hids)
    intro together members g h
    rw [columnSum_eq, columnSum_eq] at h
    exact h.showAlike

/-- A ledger with a name that stands for no name beside a proper one. -/
theorem row_is_aggregate_namelessSales :
    "Zen" ≠ unknownName ∧
      (∃ d : Dataset Float, Dataset.ofRecords namelessSales none = .ok d ∧
        "Zen" ∈ d.vocabulary.values .customer ∧
        RowIsAggregate ["orders", "transactions"] .customer "Zen" d.table) ∧
      ∃ d : Dataset Rat, Dataset.ofRecords namelessSales (some .empty) = .ok d ∧
        (∀ r ∈ d.table, r.masterId.isCountable = true) ∧
        "Zen" ∈ d.vocabulary.values .customer ∧
        RowIsAggregate ["revenue", "quantity", "orders", "transactions"] .customer "Zen"
          d.table := by
  have hknown : "Zen" ≠ unknownName := by decide
  have hids : ∀ r ∈ Dataset.tableOf (namelessSales (α := Rat)), r.masterId.isCountable = true := by
    decide +kernel
  refine ⟨hknown, ⟨_, rfl, ?_, ?_⟩, ⟨_, rfl, hids, ?_, ?_⟩⟩
  · decide +kernel
  · exact (row_is_aggregate .customer "Zen" hknown).1 namelessSales none _ rfl nofun
      (by decide +kernel)
  · decide +kernel
  · exact (row_is_aggregate .customer "Zen" hknown).2 namelessSales (some .empty) _ rfl
      (fun _ => hids) (by decide +kernel)

/-- Where ids are lists, a name of the vocabulary has no row, for there is no breakdown. -/
theorem no_row_for_lists : ∃ d, Dataset.ofRecords listedOrders (some .empty) = .ok d ∧
    (∀ r ∈ d.table, r.amount.isFinite = true ∧ r.quantity.isFinite = true) ∧
    "Acme" ∈ d.vocabulary.values .customer ∧ "Acme" ≠ unknownName ∧
    breakdown (.column .customer) d.table [] = .error (.uncountable "list") ∧
    ¬RowIsAggregate ["orders", "transactions"] .customer "Acme" d.table := by
  refine ⟨_, rfl, by decide +kernel, by decide +kernel, by decide, rfl, fun h => ?_⟩
  obtain ⟨kept, row, -, ⟨table, htable, -⟩, -⟩ := h []
  cases htable

end SalesDesk
