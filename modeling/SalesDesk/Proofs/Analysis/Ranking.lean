import SalesDesk.Proofs.Analysis.Order
import SalesDesk.Proofs.Analysis.Titles

/-!
Rankings. All entries from the top are one list, of groups or of single records; a ranking shows the
first few of it, and from the bottom the first few of its reverse.
-/
namespace SalesDesk

section
variable {α : Type} [Figure α]

/-- A record in a ranking by amount. -/
def Record.entry (r : Record α) : Entries (Cell α) := [
  ("customer", .text r.customer), ("item", .text (if r.item.isEmpty then unknownName else r.item)),
  ("amount", .figure r.amount), ("date", .day r.date)]

def Group.entryBy (m : Measure) (g : Group α) : Entries (Cell α) :=
  [("label", g.key.cell), (m.name, g.cell m)]

/-- The rows that a ranking shows of all entries from the top. -/
def RankingStyle.shown {β : Type} (style : RankingStyle) (full : List β) : List β :=
  (if style.bottom then full.reverse else full).take style.limit.toNat

theorem RankingStyle.map_upTo_ranked {β γ : Type} {style : RankingStyle} (h : 0 ≤ style.limit)
    (f : β → γ) (figure : β → α) (xs : List β) :
    (upTo style.limit (ranked figure style.bottom xs)).map f =
      style.shown ((falling figure xs).map f) := by
  rw [upTo, if_pos h, List.map_take, ranked, shown]
  split
  · rw [List.map_reverse]
  · rfl

variable {rows : List (Record α)}

/-- All entries of a ranking from the top: each group or each record once, its figure falling, equal
ones in the order in which they first appear. -/
inductive FullRanking (measure : Measure) (rows : List (Record α)) :
    Option Grouping → List (Entries (Cell α)) → Prop
  | groups {grouping : Grouping} {key : Record α → Option GroupKey} {first ordered : List (Group α)}
      (hkey : grouping.key rows = .ok key) (hfirst : Grouped key rows first)
      (hordered : FallingFrom (Group.measured measure) first ordered) :
      FullRanking measure rows (some grouping) (ordered.map (Group.entryBy measure))
  | records {ordered : List (Record α)} (hordered : FallingFrom Record.amount rows ordered) :
      FullRanking measure rows none (ordered.map Record.entry)

/-- Without a title of its own, a ranking fails for a limit that cannot be written. -/
theorem ranking_eq_error {grouping : Option Grouping} (measure : Measure) (filters : Entries String)
    (hne : rows ≠ []) (hknown : ∀ g, grouping = some g → g.IsKnown)
    (hids : grouping.isSome = true → ∀ r ∈ rows, r.masterId.isCountable = true)
    {style : RankingStyle} (h : ¬style.IsTitled grouping) :
    ranking grouping measure rows style filters = .error (.tooManyDigits none) := by
  have hrows : rows.isEmpty = false := by simpa using hne
  cases grouping with
  | some g =>
    obtain ⟨first, hgroups, -⟩ := gives_grouped (hknown g rfl) (hids rfl)
    rw [ranking, groupRanking, hrows, hgroups]
    simp only [ok_bind, RankingStyle.groupTitle_eq_error h]
    rfl
  | none =>
    have hlimit : Number.isWritable style.limit = false := by simpa [RankingStyle.IsTitled] using h
    have hfails : transactionRanking rows { style with title := none } (some .transaction) =
        .error (.tooManyDigits none) := transactionRanking_eq_error hne rfl hlimit
    rw [ranking, hfails]
    rfl

variable [Figure.Ordered α]

theorem groupRanking_shown {grouping : Grouping} (measure : Measure) (filters : Entries String)
    (hne : rows ≠ []) (hknown : grouping.IsKnown)
    (hids : ∀ r ∈ rows, r.masterId.isCountable = true) :
    ∃ full, FullRanking measure rows (some grouping) full ∧
      ∀ style : RankingStyle, style.IsTitled (some grouping) → 0 ≤ style.limit →
        Gives (groupRanking grouping measure rows style filters) (·.rows = style.shown full) := by
  have hrows : rows.isEmpty = false := by simpa using hne
  obtain ⟨first, hgroups, key, hkey, hfirst⟩ := gives_grouped hknown hids
  refine ⟨_, .groups hkey hfirst (fallingFrom_falling _ _), fun style htitled hlimit => ?_⟩
  obtain ⟨title, htitle⟩ := RankingStyle.exists_groupTitle htitled measure
  unfold groupRanking
  rw [hrows, hgroups]
  simp only [ok_bind, htitle]
  exact gives_ok
    (style.map_upTo_ranked hlimit (Group.entryBy measure) (Group.measured measure) first)

theorem topTransactions_shown (measure : Measure) (hne : rows ≠ []) (dimension : Option Dimension) :
    ∃ full, FullRanking measure rows none full ∧
      ∀ style : RankingStyle, 0 ≤ style.limit →
        (topTransactions rows style dimension).rows = style.shown full := by
  have hrows : rows.isEmpty = false := by simpa using hne
  refine ⟨_, .records (fallingFrom_falling _ _), fun style hlimit => ?_⟩
  unfold topTransactions
  rw [hrows]
  exact style.map_upTo_ranked hlimit Record.entry Record.amount rows

/-- A ranking shows the first few of all entries from the top or, from the bottom, of their exact
reverse, whatever the grouping, the measure and the limit. It fails only where it is not given a
title and the limit is too long to be written into one. -/
theorem ranking_shown (grouping : Option Grouping) (measure : Measure) (filters : Entries String)
    (hne : rows ≠ []) (hknown : ∀ g, grouping = some g → g.IsKnown)
    (hids : grouping.isSome = true → ∀ r ∈ rows, r.masterId.isCountable = true) :
    ∃ full, FullRanking measure rows grouping full ∧
      ∀ style : RankingStyle,
        (style.IsTitled grouping → 0 ≤ style.limit →
          Gives (ranking grouping measure rows style filters) (·.rows = style.shown full)) ∧
        (¬style.IsTitled grouping →
          ranking grouping measure rows style filters = .error (.tooManyDigits none)) := by
  have hfails : ∀ style : RankingStyle, ¬style.IsTitled grouping →
      ranking grouping measure rows style filters = .error (.tooManyDigits none) :=
    fun _ => ranking_eq_error measure filters hne hknown hids
  cases grouping with
  | some g =>
    obtain ⟨full, hfull, hshown⟩ := groupRanking_shown measure filters hne (hknown g rfl) (hids rfl)
    exact ⟨full, hfull, fun style => ⟨hshown style, hfails style⟩⟩
  | none =>
    obtain ⟨full, hfull, hshown⟩ := topTransactions_shown measure hne (some .transaction)
    refine ⟨full, hfull, fun style => ⟨fun htitled hlimit => ?_, hfails style⟩⟩
    have hwritable : Number.isWritable style.limit = true := by
      simpa [RankingStyle.IsTitled] using htitled
    have hgiven : transactionRanking rows { style with title := none } (some .transaction) =
        .ok (topTransactions rows { style with title := none } (some .transaction)) :=
      transactionRanking_of_isWritable hwritable
    rw [ranking, hgiven]
    exact gives_ok (hshown { style with title := none } hlimit)

end

theorem ranking_shown_namelessSales :
    (∀ g, some (Grouping.column .customer) = some g → g.IsKnown) ∧
      namelessSales (α := Float) ≠ [] ∧
      (∀ r ∈ namelessSales (α := Float), r.masterId.isCountable = true) ∧
      ∃ full, FullRanking .orders (namelessSales (α := Float)) (some (.column .customer)) full ∧
        ∀ style : RankingStyle,
          (style.IsTitled (some (.column .customer)) → 0 ≤ style.limit →
            Gives (ranking (some (.column .customer)) .orders (namelessSales (α := Float)) style [])
              (·.rows = style.shown full)) ∧
          (¬style.IsTitled (some (.column .customer)) →
            ranking (some (.column .customer)) .orders (namelessSales (α := Float)) style [] =
              .error (.tooManyDigits none)) := by
  have hknown : ∀ g, some (Grouping.column .customer) = some g → g.IsKnown := by
    rintro _ ⟨⟩
    trivial
  have hids : ∀ r ∈ namelessSales (α := Float), r.masterId.isCountable = true :=
    fun r hr => (haveIds_namelessSales r hr).1
  exact ⟨hknown, namelessSales_ne_nil, hids,
    ranking_shown _ .orders [] namelessSales_ne_nil hknown fun _ => hids⟩

/-- Ids that are lists cannot be counted, so that there is no ranking of groups, by revenue or by
any other measure; and a limit of 4301 digits is too long for the title of a ranking. -/
theorem ranking_fails_for_lists :
    (∃ d, Dataset.ofRecords listedOrders (some .empty) = .ok d ∧ d.table = listedOrders) ∧
      listedOrders ≠ [] ∧
      (∀ r ∈ listedOrders, r.amount.isFinite = true ∧ r.quantity.isFinite = true) ∧
      ranking (some (.column .customer)) .revenue listedOrders { limit := 1 } [] =
        .error (.uncountable "list") ∧
      ranking none .revenue (namelessSales (α := Float)) { limit := Number.leastTooLong } [] =
        .error (.tooManyDigits none) := by
  refine ⟨⟨_, rfl, rfl⟩, List.cons_ne_nil _ _, ?_, rfl, ?_⟩
  · decide +kernel
  · have hlong : ¬RankingStyle.IsTitled { limit := Number.leastTooLong } none := by
      simp [RankingStyle.IsTitled, Number.not_isWritable_leastTooLong]
    exact ranking_eq_error _ _ namelessSales_ne_nil (by simp) (by simp) hlong

end SalesDesk
