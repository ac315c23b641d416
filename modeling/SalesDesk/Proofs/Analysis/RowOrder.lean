import SalesDesk.Analysis.Comparisons
import SalesDesk.Proofs.Analysis.Order
import SalesDesk.Proofs.Ledger.Alike

/-!
The order of records does not change what is told of them where arithmetic is exact: not the totals,
the counts and the comparison of periods, nor the months, and of other groups only their order.
-/
namespace SalesDesk

section
variable {α : Type} {rows rows' : List (Record α)}

theorem orderCount_perm (h : rows.Perm rows') : Alike Eq (orderCount rows) (orderCount rows') := by
  have hids := (h.map (·.masterId)).filter (!·.isMissingId)
  apply (distinctIds_perm hids fun id hid => by simpa using (List.mem_filter.mp hid).2).map
  exact fun _ _ hlength => hlength

theorem nameCount_perm (h : rows.Perm rows') (column : Column) :
    nameCount column rows = nameCount column rows' := by
  unfold nameCount
  exact (perm_eraseDups (h.map _)).length_eq

end

theorem exists_kind_of_ofRows {α : Type} {add add' : List α → α} {key : GroupKey}
    {rows : List (Record α)} {e : Fault} (h : Group.ofRows add add' key rows = .error e) :
    ∃ kind, e = .uncountable kind := by
  unfold Group.ofRows orderCount distinctIds at h
  split at h
  · cases h
    exact ⟨_, rfl⟩
  · cases h

section
variable {rows rows' : List (Record Rat)}

theorem revenueOf_perm (h : rows.Perm rows') : revenueOf rows = revenueOf rows' :=
  Figure.total_perm (h.map _)

theorem quantityOf_perm (h : rows.Perm rows') : quantityOf rows = quantityOf rows' :=
  Figure.total_perm (h.map _)

theorem totalCell_perm (h : rows.Perm rows') (t : Total) :
    Alike Eq (t.cell rows) (t.cell rows') := by
  cases t with
  | revenue => exact .ok (congrArg Cell.figure (revenueOf_perm h))
  | quantity => exact .ok (congrArg Cell.figure (quantityOf_perm h))
  | orders => exact (orderCount_perm h).map fun n _ hn => by rw [hn]
  | transactions => exact .ok (by rw [h.length_eq])
  | customers => exact .ok (by rw [nameCount_perm h])
  | items => exact .ok (by rw [nameCount_perm h])

theorem totals_perm (h : rows.Perm rows') (which : List Total) :
    Alike Eq (totals rows which) (totals rows' which) :=
  Alike.mapM (fun t => (totalCell_perm h t).map fun _ _ hc => by rw [hc]) which

theorem key_perm (h : rows.Perm rows') (grouping : Grouping) :
    grouping.key rows = grouping.key rows' := by
  have hids := h.map (·.masterId)
  unfold Grouping.key
  simp only [IdColumn.ofIds_perm hids, IdColumn.momentText_perm hids]

theorem keyed_perm (h : rows.Perm rows') (grouping : Grouping) :
    Alike List.Perm (keyed grouping rows) (keyed grouping rows') := by
  unfold keyed
  rw [key_perm h]
  apply (Alike.of_eq rfl).map
  rintro key _ rfl
  exact h.filterMap _

theorem groupCount_perm (h : rows.Perm rows') (grouping : Grouping) :
    Alike Eq (groupCount grouping rows) (groupCount grouping rows') :=
  (keyed_perm h grouping).map fun _ _ hfound => (perm_eraseDups (hfound.map _)).length_eq

def groupOf (found : List (GroupKey × Record Rat)) (key : GroupKey) : Except Fault (Group Rat) :=
  Group.ofRows Figure.sum Figure.sum key ((found.filter (·.1 == key)).map (·.2))

theorem groups_eq (grouping : Grouping) (rows : List (Record Rat)) :
    groups grouping rows =
      keyed grouping rows >>= fun found => (found.map (·.1)).eraseDups.mapM (groupOf found) := by
  simp only [groups, columnSum_eq]
  rfl

theorem groupOf_perm {found found' : List (GroupKey × Record Rat)} (h : found.Perm found')
    (key : GroupKey) : Alike Eq (groupOf found key) (groupOf found' key) := by
  have hmembers := (h.filter (·.1 == key)).map (·.2)
  apply (orderCount_perm hmembers).map
  rintro n _ rfl
  rw [Figure.sum_perm (hmembers.map _), Figure.sum_perm (hmembers.map _), hmembers.length_eq]

theorem groups_perm (h : rows.Perm rows') (grouping : Grouping) :
    Alike List.Perm (groups grouping rows) (groups grouping rows') := by
  rw [groups_eq, groups_eq]
  apply (keyed_perm h grouping).bind
  intro found found' hfound
  have hsteps := Alike.mapM (groupOf_perm hfound) (found.map (·.1)).eraseDups
  have hkeys := Alike.mapM_perm (f := groupOf found') (fun _ _ => exists_kind_of_ofRows)
    (perm_eraseDups (hfound.map (·.1)))
  exact (hsteps.imp fun _ _ _ _ hgroups => .of_eq hgroups).trans_perm hkeys

end

theorem mergeSort_perm_mergeSort {β : Type} {l l' : List β} (h : l.Perm l')
    (le : β → β → Bool) : (l.mergeSort le).Perm (l'.mergeSort le) :=
  (List.mergeSort_perm l le).trans (h.trans (List.mergeSort_perm l' le).symm)

/-- However the groups of months are ordered, sorting brings them into one order. -/
theorem mergeSort_months_perm {gs gs' : List (Group Rat)} (h : gs.Perm gs')
    (hmonths : ∀ g ∈ gs, g.key.IsMonth) (hkeys : (gs.map Group.key).Nodup) :
    gs.mergeSort (fun a b => a.key.monthLe b.key) =
      gs'.mergeSort fun a b => a.key.monthLe b.key := by
  rw [mergeSort_monthLe_eq hmonths,
    mergeSort_monthLe_eq fun g hg => hmonths g (h.mem_iff.mpr hg)]
  refine List.Perm.eq_of_pairwise ?_ (pairwise_mergeSort_placeLe gs)
    (pairwise_mergeSort_placeLe gs') (mergeSort_perm_mergeSort h _)
  intro a b ha hb hab hba
  have ha := List.mem_mergeSort.mp ha
  have hb := h.mem_iff.mpr (List.mem_mergeSort.mp hb)
  have hplace := GroupKey.placeLe_antisymm hab hba
  apply List.inj_on_of_nodup_map hkeys ha hb
  rw [(hmonths a ha).eq, (hmonths b hb).eq, hplace]

structure Result.Rearranges (result result' : Result Rat) : Prop where
  rows : result.rows.Perm result'.rows
  rest : result' = { result with rows := result'.rows }

section
variable {rows rows' : List (Record Rat)}

/-- Of both lists of records the same is told, of groups other than months in some order. -/
structure ToldAlike (rows rows' : List (Record Rat)) : Prop where
  aggregate (filters : Entries String) : Alike Eq (aggregate rows filters) (aggregate rows' filters)
  average (filters : Entries String) : average rows filters = average rows' filters
  count (grouping : Option Grouping) (filters : Entries String) :
    Alike Eq (count grouping rows filters) (count grouping rows' filters)
  comparison (periods : List Period) (filters : Entries String) :
    Alike Eq (comparison rows periods filters) (comparison rows' periods filters)
  smartSummary (filters : Entries String) :
    Alike Eq (smartSummary rows filters) (smartSummary rows' filters)
  entitySummary (title note : String) (dimension : Option Dimension) (withCustomers : Bool) :
    Alike Eq (entitySummary rows title note dimension withCustomers)
      (entitySummary rows' title note dimension withCustomers)
  months (filters : Entries String) :
    Alike Eq (breakdown .month rows filters) (breakdown .month rows' filters)
  breakdown (grouping : Grouping) (filters : Entries String) :
    Alike Result.Rearranges (breakdown grouping rows filters) (breakdown grouping rows' filters)

theorem ofTotals_perm (h : rows.Perm rows') (which : List Total) (empty : Result Rat)
    (told : Entries (Cell Rat) → Result Rat) :
    Alike Eq (if rows.isEmpty then .ok empty else do return told (← totals rows which))
      (if rows'.isEmpty then .ok empty else do return told (← totals rows' which)) := by
  rw [h.isEmpty_eq]
  split
  · exact .ok rfl
  · apply (totals_perm h which).map
    rintro t _ rfl
    rfl

theorem aggregate_perm (h : rows.Perm rows') (filters : Entries String) :
    Alike Eq (aggregate rows filters) (aggregate rows' filters) := ofTotals_perm h _ _ _

theorem smartSummary_perm (h : rows.Perm rows') (filters : Entries String) :
    Alike Eq (smartSummary rows filters) (smartSummary rows' filters) := ofTotals_perm h _ _ _

theorem entitySummary_perm (h : rows.Perm rows') (title note : String)
    (dimension : Option Dimension) (withCustomers : Bool) :
    Alike Eq (entitySummary rows title note dimension withCustomers)
      (entitySummary rows' title note dimension withCustomers) := ofTotals_perm h _ _ _

theorem average_perm (h : rows.Perm rows') (filters : Entries String) :
    average rows filters = average rows' filters := by
  simp only [average, h.isEmpty_eq, h.length_eq, revenueOf_perm h, quantityOf_perm h]

theorem count_perm (h : rows.Perm rows') (grouping : Option Grouping)
    (filters : Entries String) :
    Alike Eq (count grouping rows filters) (count grouping rows' filters) := by
  unfold count
  rw [h.isEmpty_eq]
  split
  · exact .ok rfl
  · cases grouping with
    | none => exact .ok (by rw [h.length_eq])
    | some g =>
      dsimp only
      apply (groupCount_perm h g).bind
      rintro n _ rfl
      exact .ok rfl

theorem comparison_perm (h : rows.Perm rows') (periods : List Period)
    (filters : Entries String) :
    Alike Eq (comparison rows periods filters) (comparison rows' periods filters) := by
  unfold comparison
  split
  · rename_i first second more
    rw [h.isEmpty_eq]
    split
    · exact .ok rfl
    · apply (inPeriod_perm h first).bind
      intro before before' hbefore
      apply (inPeriod_perm h second).bind
      intro after after' hafter
      dsimp only
      rw [revenueOf_perm hbefore, revenueOf_perm hafter, hbefore.length_eq, hafter.length_eq]
      exact .of_eq rfl
  · exact .ok rfl

theorem months_perm (h : rows.Perm rows') (filters : Entries String) :
    Alike Eq (breakdown .month rows filters) (breakdown .month rows' filters) := by
  unfold breakdown
  rw [h.isEmpty_eq]
  split
  · exact .ok rfl
  · refine ((groups_perm h .month).imp ?_).map (R := fun gs gs' =>
      gs.mergeSort (fun a b => a.key.monthLe b.key) =
        gs'.mergeSort fun a b => a.key.monthLe b.key) fun gs gs' hsorted => ?_
    · intro gs gs' hgs _ hperm
      obtain ⟨key, hkey, hgrouped⟩ := grouped_of_groups hgs
      exact mergeSort_months_perm hperm (hgrouped.isMonth hkey) hgrouped.nodup_keys
    · have hmonth : (Grouping.month == Grouping.month) = true := rfl
      simp only [hmonth, if_true, hsorted]

theorem breakdown_perm (h : rows.Perm rows') (grouping : Grouping) (filters : Entries String) :
    Alike Result.Rearranges (breakdown grouping rows filters)
      (breakdown grouping rows' filters) := by
  unfold breakdown
  rw [h.isEmpty_eq]
  split
  · exact .ok ⟨.refl _, rfl⟩
  · apply (groups_perm h grouping).map
    intro gs gs' hgs
    refine ⟨List.Perm.map _ ?_, rfl⟩
    split
    · exact mergeSort_perm_mergeSort hgs _
    · exact mergeSort_perm_mergeSort hgs _

/-- All of that is told of the records, and not that there are none. -/
structure IsTold (rows : List (Record Rat)) : Prop where
  aggregate (filters : Entries String) : Gives (aggregate rows filters) (·.kind = .summary)
  average (filters : Entries String) : (average rows filters).kind = .summary
  count (grouping : Option Grouping) (filters : Entries String)
    (hg : ∀ g, grouping = some g → g.IsKnown) :
    Gives (count grouping rows filters) (·.kind = .summary)
  comparison (first second : Period) (more : List Period) (filters : Entries String)
    (hfirst : first.Tellable) (hsecond : second.Tellable) :
    Gives (comparison rows (first :: second :: more) filters) (·.kind = .table)
  smartSummary (filters : Entries String) : Gives (smartSummary rows filters) (·.kind = .summary)
  entitySummary (title note : String) (dimension : Option Dimension) (withCustomers : Bool) :
    Gives (entitySummary rows title note dimension withCustomers) (·.kind = .summary)
  breakdown (grouping : Grouping) (filters : Entries String) (hg : grouping.IsKnown) :
    Gives (breakdown grouping rows filters) (·.kind = .table)

theorem gives_totals_of_ids (hids : ∀ r ∈ rows, r.masterId.isCountable = true)
    (which : List Total) : Gives (totals rows which) fun _ => True := by
  have hentry : ∀ t ∈ which, Gives (do return (t.name, ← t.cell rows)) fun _ => True := by
    intro t _
    cases t with
    | orders =>
      obtain ⟨n, hn, -⟩ := gives_orderCount_of_ids hids
      exact ⟨_, by rw [Total.cell, hn]; rfl, trivial⟩
    | _ => exact gives_ok trivial
  exact (gives_mapM hentry).mono fun _ _ => trivial

theorem isTold_of_ids (hne : rows ≠ []) (hids : ∀ r ∈ rows, r.masterId.isCountable = true) :
    IsTold rows := by
  have hrows : rows.isEmpty = false := by simpa using hne
  constructor
  case aggregate =>
    intro filters
    simp only [aggregate, hrows]
    exact (gives_totals_of_ids hids _).map fun _ _ => rfl
  case average =>
    intro filters
    simp only [average, hrows]
    rfl
  case count =>
    intro grouping filters hg
    simp only [count, hrows]
    cases grouping with
    | none => exact gives_ok rfl
    | some g => exact (gives_groupCount (hg g rfl) rows).bind fun _ _ => gives_ok rfl
  case comparison =>
    intro first second more filters hfirst hsecond
    simp only [comparison, hrows, Filter.inPeriod_some hfirst.known,
      Filter.inPeriod_some hsecond.known, hfirst.written, hsecond.written]
    exact gives_ok rfl
  case smartSummary =>
    intro filters
    simp only [smartSummary, hrows]
    exact (gives_totals_of_ids hids _).map fun _ _ => rfl
  case entitySummary =>
    intro title note dimension withCustomers
    simp only [entitySummary, hrows]
    exact (gives_totals_of_ids hids _).map fun _ _ => rfl
  case breakdown =>
    intro grouping filters hg
    simp only [breakdown, hrows]
    exact (gives_groups_of_ids hg hids).map fun _ _ => rfl

/-- Where arithmetic is exact, the order of records does not change what is told of them: the
totals, the rows of each table and their order, but for the order of groups other than months. All
of it is told of records whose ids can be told apart. -/
theorem toldAlike_of_perm (h : rows.Perm rows') :
    ToldAlike rows rows' ∧
      (rows ≠ [] → (∀ r ∈ rows, r.masterId.isCountable = true) → IsTold rows) := by
  refine ⟨?_, isTold_of_ids⟩
  exact {
    aggregate := aggregate_perm h
    average := average_perm h
    count := count_perm h
    comparison := comparison_perm h
    smartSummary := smartSummary_perm h
    entitySummary := entitySummary_perm h
    months := months_perm h
    breakdown := breakdown_perm h }

end

/-- A sale of one customer, and two of another in one order. -/
def springSales : List (Record Rat) := [
  ⟨"Acme", "Rod", "Steel", "North", 30, 3, .int 1, ⟨2024, 4, 2⟩, true, none⟩,
  ⟨"Zen", "Bag", "Cement", "South", 20, 1, .text "m2", ⟨2024, 3, 9⟩, true, none⟩,
  ⟨"Zen", "Rod", "Steel", "South", 10, 5, .text "m2", ⟨2024, 4, 5⟩, true, none⟩]

theorem toldAlike_of_perm_springSales :
    springSales.Perm springSales.reverse ∧ ToldAlike springSales springSales.reverse ∧
      IsTold springSales := by
  have hperm : springSales.Perm springSales.reverse := springSales.reverse_perm.symm
  obtain ⟨halike, htold⟩ := toldAlike_of_perm hperm
  exact ⟨hperm, halike, htold (by decide) (by decide)⟩

end SalesDesk
