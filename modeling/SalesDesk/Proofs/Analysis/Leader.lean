import SalesDesk.Analysis.Summaries
import SalesDesk.Proofs.Analysis.Breakdown
import SalesDesk.Proofs.Analysis.Ranking

/-!
The group that leads, the first rows of rankings and of breakdowns, and the number of groups. All
are read off one list: the groups by falling revenue.
-/
namespace SalesDesk

section
variable {α : Type} [Figure α] {rows : List (Record α)}

/-- The groups of some records by falling revenue: one that leads, and the others. -/
structure LedBy (grouping : Grouping) (rows : List (Record α)) (g : Group α)
    (others : List (Group α)) : Prop where
  isEmpty : rows.isEmpty = false
  groups : ∃ gs, groups grouping rows = .ok gs ∧ falling Group.revenue gs = g :: others

theorem length_falling {β : Type} (figure : β → α) (xs : List β) :
    (falling figure xs).length = xs.length := List.length_mergeSort xs

theorem Grouped.ne_nil {key : Record α → Option GroupKey} {gs : List (Group α)}
    (h : Grouped key rows gs) {r : Record α} (hr : r ∈ rows) (hkey : (key r).isSome = true) :
    gs ≠ [] := by
  obtain ⟨k, hk⟩ := Option.isSome_iff_exists.mp hkey
  have hmem : k ∈ gs.map Group.key := by
    rw [h.keys, List.mem_eraseDups]
    exact List.mem_filterMap.mpr ⟨r, hr, hk⟩
  rintro rfl
  exact List.not_mem_nil hmem

theorem exists_ledBy (a : Axis) (hne : rows ≠ [])
    (hids : ∀ r ∈ rows, r.masterId.isCountable = true) :
    ∃ g others, LedBy a.grouping rows g others := by
  obtain ⟨gs, hgroups, hgrouped⟩ := a.gives_grouped hids
  obtain ⟨r, hr⟩ := List.exists_mem_of_ne_nil rows hne
  cases hfalling : falling Group.revenue gs with
  | nil =>
    have hlength := length_falling Group.revenue gs
    rw [hfalling] at hlength
    exact absurd (List.eq_nil_of_length_eq_zero hlength.symm) (hgrouped.ne_nil hr rfl)
  | cons g others => exact ⟨g, others, by simpa using hne, gs, hgroups, hfalling⟩

namespace LedBy

variable {grouping : Grouping} {g : Group α} {others : List (Group α)}

theorem leader?_eq (h : LedBy grouping rows g others) :
    leader? grouping rows = .ok (some (g.key, g.revenue, others.length + 1)) := by
  obtain ⟨gs, hgroups, hfalling⟩ := h.groups
  rw [leader?, h.isEmpty, hgroups]
  simp only [ok_bind, hfalling]
  rfl

/-- A ranking by revenue starts with the group that leads, unless it has no rows. -/
theorem gives_ranking (h : LedBy grouping rows g others) {style : RankingStyle}
    (htitled : style.IsTitled (some grouping)) (hlimit : 1 ≤ style.limit)
    (htop : style.bottom = false) (filters : Entries String) :
    Gives (ranking (some grouping) .revenue rows style filters)
      (·.rows.head? = some [("label", g.key.cell), ("revenue", .figure g.revenue)]) := by
  obtain ⟨gs, hgroups, hfalling⟩ := h.groups
  obtain ⟨n, hn⟩ : ∃ n, style.limit.toNat = n + 1 := Nat.exists_eq_add_of_le' (by omega)
  have hshown := style.map_upTo_ranked (by omega) (Group.entryBy .revenue) Group.revenue gs
  rw [hfalling, RankingStyle.shown, hn] at hshown
  obtain ⟨title, htitle⟩ := RankingStyle.exists_groupTitle htitled .revenue
  rw [ranking, groupRanking, h.isEmpty, hgroups]
  simp only [ok_bind, htitle]
  refine gives_ok ((congrArg List.head? hshown).trans ?_)
  rw [htop]
  rfl

theorem gives_count (h : LedBy grouping rows g others) (filters : Entries String) :
    Gives (count (some grouping) rows filters)
      (·.totals = [("count", .count (others.length + 1))]) := by
  obtain ⟨gs, hgroups, hfalling⟩ := h.groups
  have hlength : gs.length = others.length + 1 := by
    rw [← length_falling Group.revenue gs, hfalling, List.length_cons]
  have hcount := groupCount_of_groups hgroups
  rw [hlength] at hcount
  rw [count, h.isEmpty]
  simp only [hcount]
  exact gives_ok rfl

/-- A breakdown has all groups. Unless it follows the calendar, the one that leads stands first. -/
theorem gives_breakdown {a : Axis} (h : LedBy a.grouping rows g others)
    (filters : Entries String) :
    Gives (breakdown a.grouping rows filters) fun table =>
      table.rows.length = others.length + 1 ∧
        (a ≠ .month → table.rows.head? = some g.row) := by
  obtain ⟨gs, hgroups, hfalling⟩ := h.groups
  have hne : rows ≠ [] := by simpa using h.isEmpty
  apply (breakdown_of_groups hne hgroups filters).mono
  intro table htable
  rw [htable]
  constructor
  · rw [List.length_map, (a.ordered_perm gs).length_eq, ← length_falling Group.revenue gs,
      hfalling, List.length_cons]
  · intro ha
    rw [Axis.ordered, if_neg ha, hfalling]
    rfl

end LedBy

/-- The group that leads is the first one of every ranking by revenue, and of the breakdown unless
that follows the calendar; the number of groups that is told with it is that of the rows of the
breakdown, and the count. A ranking fails only where it is not given a title and the limit is too
long to be written into one. -/
theorem leader_agrees (a : Axis) (filters : Entries String) (hne : rows ≠ [])
    (hids : ∀ r ∈ rows, r.masterId.isCountable = true) :
    ∃ key revenue n, leader? a.grouping rows = .ok (some (key, revenue, n)) ∧
      (∀ style : RankingStyle,
        (style.IsTitled (some a.grouping) → 1 ≤ style.limit → style.bottom = false →
          Gives (ranking (some a.grouping) .revenue rows style filters)
            (·.rows.head? = some [("label", key.cell), ("revenue", .figure revenue)])) ∧
        (¬style.IsTitled (some a.grouping) →
          ranking (some a.grouping) .revenue rows style filters =
            .error (.tooManyDigits none))) ∧
      (Gives (breakdown a.grouping rows filters) fun table =>
        table.rows.length = n ∧ (a ≠ .month → ∃ row, table.rows.head? = some row ∧
          row.lookup "label" = some key.cell ∧ row.lookup "revenue" = some (.figure revenue))) ∧
      Gives (count (some a.grouping) rows filters) (·.totals = [("count", .count n)]) := by
  obtain ⟨g, others, h⟩ := exists_ledBy a hne hids
  have hfails : ∀ style : RankingStyle, ¬style.IsTitled (some a.grouping) →
      ranking (some a.grouping) .revenue rows style filters = .error (.tooManyDigits none) :=
    fun _ => ranking_eq_error .revenue filters hne
      (fun _ hg => Option.some.inj hg ▸ a.isKnown_grouping) fun _ => hids
  refine ⟨g.key, g.revenue, others.length + 1, h.leader?_eq, fun style => ⟨?_, hfails style⟩, ?_,
    h.gives_count filters⟩
  · exact fun htitled hlimit htop => h.gives_ranking htitled hlimit htop filters
  apply (h.gives_breakdown filters).mono
  intro table htable
  exact ⟨htable.1, fun ha => ⟨g.row, htable.2 ha, rfl, rfl⟩⟩

end

theorem leader_agrees_namelessSales :
    namelessSales (α := Float) ≠ [] ∧
      (∀ r ∈ namelessSales (α := Float), r.masterId.isCountable = true) ∧
      ∃ key revenue n, leader? (Axis.column .customer).grouping (namelessSales (α := Float)) =
          .ok (some (key, revenue, n)) ∧
        (∀ style : RankingStyle,
          (style.IsTitled (some (.column .customer)) → 1 ≤ style.limit → style.bottom = false →
            Gives (ranking (some (.column .customer)) .revenue (namelessSales (α := Float)) style
              []) (·.rows.head? = some [("label", key.cell), ("revenue", .figure revenue)])) ∧
          (¬style.IsTitled (some (.column .customer)) →
            ranking (some (.column .customer)) .revenue (namelessSales (α := Float)) style [] =
              .error (.tooManyDigits none))) ∧
        (Gives (breakdown (.column .customer) (namelessSales (α := Float)) []) fun table =>
          table.rows.length = n ∧ (Axis.column .customer ≠ .month →
            ∃ row, table.rows.head? = some row ∧ row.lookup "label" = some key.cell ∧
              row.lookup "revenue" = some (.figure revenue))) ∧
        Gives (count (some (.column .customer)) (namelessSales (α := Float)) [])
          (·.totals = [("count", .count n)]) := by
  have hids : ∀ r ∈ namelessSales (α := Float), r.masterId.isCountable = true :=
    fun r hr => (haveIds_namelessSales r hr).1
  exact ⟨namelessSales_ne_nil, hids, leader_agrees (.column .customer) [] namelessSales_ne_nil hids⟩

/-- Ids that are lists cannot be counted, so that no group leads; and a limit of 4301 digits is too
long for the title of a ranking. -/
theorem no_leader_for_lists :
    (∃ d, Dataset.ofRecords listedOrders (some .empty) = .ok d ∧ d.table = listedOrders) ∧
      listedOrders ≠ [] ∧ (∀ r ∈ listedOrders, r.amount.isFinite = true) ∧
      leader? (Axis.column .customer).grouping listedOrders = .error (.uncountable "list") ∧
      Gives (count (some (.column .customer)) listedOrders [])
        (·.totals = [("count", .count 2)]) ∧
      ranking (some (.column .customer)) .revenue (namelessSales (α := Float))
        { limit := Number.leastTooLong } [] = .error (.tooManyDigits none) := by
  refine ⟨⟨_, rfl, rfl⟩, List.cons_ne_nil _ _, ?_, rfl, ⟨_, rfl, rfl⟩, ?_⟩
  · decide +kernel
  · have hlong : ¬RankingStyle.IsTitled { limit := Number.leastTooLong }
        (some (.column .customer)) := by
      simp [RankingStyle.IsTitled, Number.not_isWritable_leastTooLong]
    exact ranking_eq_error _ _ namelessSales_ne_nil
      (fun _ hg => Option.some.inj hg ▸ Grouping.isKnown_field _)
      (fun _ r hr => (haveIds_namelessSales r hr).1) hlong

end SalesDesk
