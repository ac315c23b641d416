import SalesDesk.Proofs.Analysis.Order
import SalesDesk.Proofs.Calendar.OnCalendar
import SalesDesk.Proofs.Number.Digits

/-!
A breakdown keeps what it breaks down. Its rows have different labels, their figures add up to those
of all records, and they stand in the order of the calendar or of falling revenue.
-/
namespace SalesDesk

/-- What a breakdown goes along: the names of a column, the months or the days. -/
inductive Axis
  | column (c : Column) | month | day
deriving DecidableEq

namespace Axis

def grouping : Axis → Grouping
  | column c => .column c
  | month => .month
  | day => .day

def keyOf {α : Type} : Axis → Record α → GroupKey
  | column c, r => .ofName (r.named c)
  | month, r => .month r.date.year r.date.month
  | day, r => .day r.date

theorem isKnown_grouping (a : Axis) : a.grouping.IsKnown := by
  cases a <;> trivial

theorem grouping_eq_month {a : Axis} : a.grouping = .month ↔ a = .month := by
  cases a <;> simp [grouping]

theorem key_grouping {α : Type} [Figure α] (a : Axis) (rows : List (Record α)) :
    a.grouping.key rows = .ok fun r => some (a.keyOf r) := by
  cases a <;> rfl

end Axis

theorem monthTitle_inj : ∀ m < 12, ∀ n < 12, monthTitle (m + 1) = monthTitle (n + 1) → m = n := by
  decide

theorem blank_not_mem_monthTitle : ∀ m < 12, ' ' ∉ (monthTitle (m + 1)).toList := by
  decide

namespace GroupKey

variable {k l : GroupKey}

/-- Has the calendar the month, if the key is one? -/
def IsProper : GroupKey → Prop
  | month _ number => 1 ≤ number ∧ number ≤ 12
  | _ => True

/-- Months of one title are the same: the blank parts the name from the year. -/
theorem month_inj {y y' m m' : Nat} (hm : 1 ≤ m ∧ m ≤ 12) (hm' : 1 ≤ m' ∧ m' ≤ 12)
    (h : monthTitle m ++ " " ++ toString y = monthTitle m' ++ " " ++ toString y') :
    y = y' ∧ m = m' := by
  obtain ⟨n, rfl⟩ := Nat.exists_eq_add_of_le' hm.1
  obtain ⟨n', rfl⟩ := Nat.exists_eq_add_of_le' hm'.1
  have htexts := congrArg String.toList h
  simp only [String.toList_append, Nat.toString_eq_ofList_toDigits, String.toList_ofList] at htexts
  have hblank : ' ' ∉ Nat.toDigits 10 y := fun hmem =>
    absurd (Number.isDigit_digits ' ' hmem) (by decide)
  have hparts := (List.append_cons_inj_of_notMem (blank_not_mem_monthTitle n (by omega)) hblank).mp
    (by simpa using htexts)
  obtain ⟨htitle, -, hyear⟩ := hparts
  constructor
  · rw [← Nat.ofDigitChars_ten_toDigits (n := y), hyear, Nat.ofDigitChars_ten_toDigits]
  · rw [monthTitle_inj n (by omega) n' (by omega) (String.toList_injective htitle)]

/-- Keys of one kind have different labels. -/
theorem cell_inj {α : Type} (hkind : k.IsMonth ↔ l.IsMonth) (hk : k.IsProper) (hl : l.IsProper)
    (h : (k.cell : Cell α) = l.cell) : k = l := by
  cases k with
  | name s =>
    cases l with
    | name t =>
      cases h
      rfl
    | month => exact (hkind.mpr trivial).elim
    | day => cases h
  | month y m =>
    cases l with
    | name | day => exact (hkind.mp trivial).elim
    | month y' m' =>
      obtain ⟨rfl, rfl⟩ := month_inj hk hl (Cell.text.inj h)
      rfl
  | day d =>
    cases l with
    | name => cases h
    | month => exact (hkind.mpr trivial).elim
    | day d' =>
      cases h
      rfl

end GroupKey

namespace Axis

variable {α : Type}

theorem isMonth_keyOf (a : Axis) (r : Record α) : (a.keyOf r).IsMonth ↔ a = .month := by
  cases a with
  | column c => exact ⟨False.elim, nofun⟩
  | month => exact ⟨fun _ => rfl, fun _ => trivial⟩
  | day => exact ⟨False.elim, nofun⟩

theorem isProper_keyOf (a : Axis) {r : Record α} (hdate : r.date.OnCalendar) :
    (a.keyOf r).IsProper := by
  cases a with
  | column | day => trivial
  | month => exact ⟨hdate.month_pos, hdate.month_le⟩

end Axis

section
variable {α : Type} [Figure α] {rows : List (Record α)} {a : Axis}

theorem Axis.gives_grouped (a : Axis) (hids : ∀ r ∈ rows, r.masterId.isCountable = true) :
    Gives (groups a.grouping rows) (Grouped (fun r => some (a.keyOf r)) rows) := by
  apply (SalesDesk.gives_grouped a.isKnown_grouping hids).mono
  rintro gs ⟨key, hkey, hgrouped⟩
  rw [a.key_grouping] at hkey
  cases hkey
  exact hgrouped

/-- A group as a row of a breakdown. -/
def Group.row (g : Group α) : Entries (Cell α) := [
  ("label", g.key.cell), ("revenue", .figure g.revenue), ("orders", .count g.orders),
  ("quantity", .figure g.quantity), ("transactions", .count g.transactions)]

def Axis.ordered (a : Axis) (gs : List (Group α)) : List (Group α) :=
  if a = .month then gs.mergeSort fun g h => g.key.monthLe h.key else falling Group.revenue gs

theorem Axis.ordered_perm (a : Axis) (gs : List (Group α)) : (a.ordered gs).Perm gs := by
  unfold ordered
  split
  · exact List.mergeSort_perm gs _
  · exact List.mergeSort_perm gs _

theorem breakdown_of_groups {gs : List (Group α)} (hne : rows ≠ [])
    (hgs : groups a.grouping rows = .ok gs) (filters : Entries String) :
    Gives (breakdown a.grouping rows filters) (·.rows = (a.ordered gs).map Group.row) := by
  have hrows : rows.isEmpty = false := by simpa using hne
  unfold breakdown
  rw [hrows, hgs]
  refine gives_ok ?_
  simp only [beq_iff_eq, Axis.grouping_eq_month]
  rfl

/-- The groups of a breakdown: each one once and with its own label, in the order of the calendar or
of falling revenue. All transactions are counted, and each order in every group that it has a record
in. -/
structure BrokenDown (a : Axis) (rows : List (Record α)) (gs : List (Group α)) : Prop where
  labels : (gs.map fun g => (g.key.cell : Cell α)).Nodup
  order : ∃ first, Grouped (fun r => some (a.keyOf r)) rows first ∧ gs.Perm first ∧
    (a = .month → gs.Pairwise fun g h => g.key.Earlier h.key) ∧
    (a ≠ .month → FallingFrom Group.revenue first gs)
  transactions : tally Group.transactions gs = rows.length
  orders : ∀ g ∈ gs, 1 ≤ g.orders ∧ g.orders ≤ g.transactions
  allOrders : ∃ n, orderCount rows = .ok n ∧ n ≤ tally Group.orders gs

theorem Grouped.exists_keyOf {first : List (Group α)}
    (h : Grouped (fun r => some (a.keyOf r)) rows first) {g : Group α} (hg : g ∈ first) :
    ∃ r ∈ rows, a.keyOf r = g.key := by
  obtain ⟨r, hr, hkey⟩ := List.mem_filterMap.mp (h.mem_keys hg)
  exact ⟨r, hr, Option.some.inj hkey⟩

theorem Grouped.isMonth_key {first : List (Group α)}
    (h : Grouped (fun r => some (a.keyOf r)) rows first) {g : Group α} (hg : g ∈ first) :
    g.key.IsMonth ↔ a = .month := by
  obtain ⟨r, -, hkey⟩ := h.exists_keyOf hg
  rw [← hkey, Axis.isMonth_keyOf]

theorem Grouped.nodup_cells {first : List (Group α)}
    (h : Grouped (fun r => some (a.keyOf r)) rows first)
    (hdates : ∀ r ∈ rows, r.date.OnCalendar) :
    (first.map fun g => (g.key.cell : Cell α)).Nodup := by
  have hproper : ∀ g ∈ first, g.key.IsProper := by
    intro g hg
    obtain ⟨r, hr, hkey⟩ := h.exists_keyOf hg
    rw [← hkey]
    exact a.isProper_keyOf (hdates r hr)
  have hdifferent := List.pairwise_map.mp h.nodup_keys
  apply List.pairwise_map.mpr
  apply hdifferent.imp_of_mem
  intro g g' hg hg' hne hcell
  have hkind := (h.isMonth_key hg).trans (h.isMonth_key hg').symm
  exact hne (GroupKey.cell_inj hkind (hproper g hg) (hproper g' hg') hcell)

theorem brokenDown_of_perm {first gs : List (Group α)}
    (h : Grouped (fun r => some (a.keyOf r)) rows first) (hperm : gs.Perm first)
    (hids : HaveIds rows) (hdates : ∀ r ∈ rows, r.date.OnCalendar)
    (hmonths : a = .month → gs.Pairwise fun g g' => g.key.Earlier g'.key)
    (hothers : a ≠ .month → FallingFrom Group.revenue first gs) : BrokenDown a rows gs where
  labels := (hperm.map _).nodup_iff.mpr (h.nodup_cells hdates)
  order := ⟨first, h, hperm, hmonths, hothers⟩
  transactions := (tally_perm hperm _).trans (h.tally_transactions fun _ _ => rfl)
  orders := fun g hg => h.orders_bounds hids (hperm.mem_iff.mp hg)
  allOrders := by
    rw [tally_perm hperm]
    exact h.orders_le_tally hids fun _ _ => rfl

theorem gives_brokenDown [Figure.Ordered α] (a : Axis) (hne : rows ≠ []) (hids : HaveIds rows)
    (hdates : ∀ r ∈ rows, r.date.OnCalendar) (filters : Entries String) :
    Gives (breakdown a.grouping rows filters) fun result =>
      ∃ gs, result.rows = gs.map Group.row ∧ BrokenDown a rows gs := by
  obtain ⟨first, hgroups, hfirst⟩ := a.gives_grouped fun r hr => (hids r hr).1
  apply (breakdown_of_groups hne hgroups filters).mono
  intro result hresult
  refine ⟨_, hresult, ?_⟩
  apply brokenDown_of_perm hfirst (a.ordered_perm first) hids hdates
  · intro ha
    have hmonths : ∀ g ∈ first, g.key.IsMonth := fun g hg => (hfirst.isMonth_key hg).mpr ha
    rw [Axis.ordered, if_pos ha]
    exact pairwise_earlier_mergeSort hmonths hfirst.nodup_keys
  · intro ha
    rw [Axis.ordered, if_neg ha]
    exact fallingFrom_falling Group.revenue first

end

/-- The rows of a breakdown add up to the totals of the records. -/
structure Balanced (rows : List (Record Rat)) (gs : List (Group Rat)) : Prop where
  revenue : Figure.sum (gs.map Group.revenue) = revenueOf rows
  quantity : Figure.sum (gs.map Group.quantity) = quantityOf rows

theorem BrokenDown.balanced {a : Axis} {rows : List (Record Rat)} {gs : List (Group Rat)}
    (h : BrokenDown a rows gs) : Balanced rows gs := by
  obtain ⟨first, hfirst, hperm, -, -⟩ := h.order
  constructor
  · rw [Figure.sum_perm (hperm.map _), hfirst.sum_revenue fun _ _ => rfl]
  · rw [Figure.sum_perm (hperm.map _), hfirst.sum_quantity fun _ _ => rfl]

/-- A breakdown loses nothing and counts nothing twice. On doubles and on rationals there is one row
for each group, in order, and the counts of the rows account for all records; where arithmetic is
exact, so do their figures. -/
theorem breakdown_conserves (a : Axis) (filters : Entries String) :
    (∀ rows : List (Record Float), rows ≠ [] → HaveIds rows →
      (∀ r ∈ rows, r.date.OnCalendar) →
      Gives (breakdown a.grouping rows filters) fun result =>
        ∃ gs, result.rows = gs.map Group.row ∧ BrokenDown a rows gs) ∧
    (∀ rows : List (Record Rat), rows ≠ [] → HaveIds rows →
      (∀ r ∈ rows, r.date.OnCalendar) →
      Gives (breakdown a.grouping rows filters) fun result =>
        ∃ gs, result.rows = gs.map Group.row ∧ BrokenDown a rows gs ∧ Balanced rows gs) := by
  constructor
  · intro rows hne hids hdates
    exact gives_brokenDown a hne hids hdates filters
  · intro rows hne hids hdates
    apply (gives_brokenDown a hne hids hdates filters).mono
    rintro result ⟨gs, hrows, hgs⟩
    exact ⟨gs, hrows, hgs, hgs.balanced⟩

theorem onCalendar_namelessSales {α : Type} [Figure α] :
    ∀ r ∈ namelessSales (α := α), r.date.OnCalendar := by
  have hdays : ∀ d ∈ [(⟨2024, 4, 2⟩ : Date), ⟨2023, 5, 9⟩, ⟨2024, 4, 5⟩],
      Date.ofParts? d.year d.month d.day = some d := by
    decide
  exact fun r hr => (Date.ofParts?_eq_some_iff.mp (hdays r.date (List.mem_map_of_mem hr))).2

theorem breakdown_conserves_namelessSales :
    (namelessSales (α := Float) ≠ [] ∧ HaveIds (namelessSales (α := Float)) ∧
      (∀ r ∈ namelessSales (α := Float), r.date.OnCalendar) ∧
      Gives (breakdown .month (namelessSales (α := Float)) []) fun result =>
        ∃ gs, result.rows = gs.map Group.row ∧ BrokenDown .month namelessSales gs) ∧
    (namelessSales (α := Rat) ≠ [] ∧ HaveIds (namelessSales (α := Rat)) ∧
      (∀ r ∈ namelessSales (α := Rat), r.date.OnCalendar) ∧
      Gives (breakdown (.column .customer) (namelessSales (α := Rat)) []) fun result =>
        ∃ gs, result.rows = gs.map Group.row ∧ BrokenDown (.column .customer) namelessSales gs ∧
          Balanced namelessSales gs) :=
  ⟨⟨namelessSales_ne_nil, haveIds_namelessSales, onCalendar_namelessSales,
      (breakdown_conserves .month []).1 _ namelessSales_ne_nil haveIds_namelessSales
        onCalendar_namelessSales⟩,
    namelessSales_ne_nil, haveIds_namelessSales, onCalendar_namelessSales,
    (breakdown_conserves (.column .customer) []).2 _ namelessSales_ne_nil haveIds_namelessSales
      onCalendar_namelessSales⟩

/-- Ids that are lists cannot be counted, so that there is no breakdown. A ledger can hold them if
its key figures are given. -/
theorem breakdown_fails_for_lists :
    (∃ d, Dataset.ofRecords listedOrders (some .empty) = .ok d ∧ d.table = listedOrders) ∧
      listedOrders ≠ [] ∧ (∀ r ∈ listedOrders, r.amount.isFinite = true ∧
        r.quantity.isFinite = true ∧ r.masterId.isMissingId = false) ∧
      breakdown (Axis.column .customer).grouping listedOrders [] =
        .error (.uncountable "list") := by
  refine ⟨⟨_, rfl, rfl⟩, List.cons_ne_nil _ _, ?_, ?_⟩
  · decide +kernel
  · rfl

end SalesDesk
