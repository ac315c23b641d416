import SalesDesk.Analysis.Tables
import SalesDesk.Proofs.Ledger.Sound
import SalesDesk.Proofs.Report.Writable

/-! Totals and groups of records that can be told apart, and their counts in a machine word. -/
namespace SalesDesk

variable {α : Type}

section
variable {rows : List (Record α)}

theorem gives_orderCount_of_ids (h : ∀ r ∈ rows, r.masterId.isCountable = true) :
    Gives (orderCount rows) fun n => n ≤ rows.length := by
  have hids : ∀ v ∈ (rows.map (·.masterId)).filter (!·.isMissingId), v.isCountable = true := by
    intro v hv
    obtain ⟨r, hr, rfl⟩ := List.mem_map.mp (List.mem_filter.mp hv).1
    exact h r hr
  refine (gives_distinctIds hids).map fun ids hlength => Nat.le_trans hlength ?_
  simpa using List.length_filter_le (fun v : Value => !v.isMissingId) (rows.map (·.masterId))

/-- Are there ids everywhere that can be told apart? -/
def HaveIds (rows : List (Record α)) : Prop :=
  ∀ r ∈ rows, r.masterId.isCountable = true ∧ r.masterId.isMissingId = false

theorem orderCount_eq (h : HaveIds rows) :
    orderCount rows = .ok (rows.map (·.masterId)).eraseDups.length := by
  have hids : (rows.map (·.masterId)).filter (!·.isMissingId) = rows.map (·.masterId) := by
    apply List.filter_eq_self.mpr
    intro id hid
    obtain ⟨r, hr, rfl⟩ := List.mem_map.mp hid
    rw [(h r hr).2]
    rfl
  have hcountable : ∀ id ∈ rows.map (·.masterId), id.isCountable = true := by
    intro id hid
    obtain ⟨r, hr, rfl⟩ := List.mem_map.mp hid
    exact (h r hr).1
  rw [orderCount, hids, distinctIds_eq hcountable]
  rfl

theorem gives_orderCount (h : Tellable rows) : Gives (orderCount rows) fun n => n ≤ rows.length :=
  gives_orderCount_of_ids h.ids

theorem nameCount_le (column : Column) (rows : List (Record α)) :
    nameCount column rows ≤ rows.length := by
  simpa [nameCount] using length_eraseDups_le (rows.map (·.named column))

theorem Tellable.fits_count (h : Tellable rows) {n : Nat} (hn : n ≤ rows.length) (name : String) :
    (.count n : Cell α).Fits name :=
  Cell.fits_count (Nat.lt_of_le_of_lt hn h.size) name

theorem fits_key (key : GroupKey) : (key.cell : Cell α).Fits "label" := by
  cases key with
  | name | month => exact Cell.fits_text (by decide) _
  | day => trivial

theorem writable_noDataFor (subject operation : String) (all : List (Record α)) :
    (noDataFor subject operation all).Writable := by
  unfold noDataFor
  match dateRange all with
  | none => exact .noData _ _
  | some (first, last) =>
    exact .ofTotals (Entries.fit_cons trivial (Entries.fit_cons trivial Entries.fit_nil)) rfl rfl

end

theorem mem_of_mem_upTo {β : Type} {limit : Int} {xs : List β} {x : β} (h : x ∈ upTo limit xs) :
    x ∈ xs := by
  unfold upTo at h
  split at h
  · exact List.mem_of_mem_take h
  · exact List.mem_of_mem_take h

/-- Is it a grouping that every ledger has? -/
def Grouping.IsKnown : Grouping → Prop
  | .other _ => False
  | _ => True

theorem Grouping.isKnown_month : month.IsKnown := trivial

theorem Grouping.isKnown_field (f : Field) : (field f).IsKnown := trivial

/-- Do the counts of a group fit into a machine word? -/
structure Group.Small (g : Group α) : Prop where
  orders : g.orders < 0x8000000000000000
  transactions : g.transactions < 0x8000000000000000

namespace Group.Small

variable {g : Group α}

theorem fits_orders (h : g.Small) (name : String) : (.count g.orders : Cell α).Fits name :=
  Cell.fits_count h.orders name

theorem fits_transactions (h : g.Small) (name : String) :
    (.count g.transactions : Cell α).Fits name := Cell.fits_count h.transactions name

theorem fits_cell (h : g.Small) (m : Measure) : (g.cell m).Fits m.name := by
  cases m with
  | revenue => exact Cell.fits_figure (by decide) _
  | quantity => exact Cell.fits_figure (by decide) _
  | orders => exact h.fits_orders _

end Group.Small

section
variable {rows : List (Record α)}

/-- Records with the keys of their groups, some of the given records. -/
structure Keyed (rows : List (Record α)) (found : List (GroupKey × Record α)) : Prop where
  length : found.length ≤ rows.length
  mem : ∀ p ∈ found, p.2 ∈ rows

namespace Keyed

variable {found : List (GroupKey × Record α)}

theorem length_keys_le (h : Keyed rows found) :
    (found.map (·.1)).eraseDups.length ≤ rows.length := by
  have hkeys := length_eraseDups_le (found.map (·.1))
  rw [List.length_map] at hkeys
  exact Nat.le_trans hkeys h.length

theorem mem_of_mem_members (h : Keyed rows found) {key : GroupKey} {r : Record α}
    (hr : r ∈ (found.filter (·.1 == key)).map (·.2)) : r ∈ rows := by
  obtain ⟨p, hp, rfl⟩ := List.mem_map.mp hr
  exact h.mem p (List.mem_filter.mp hp).1

theorem length_members_le (h : Keyed rows found) (key : GroupKey) :
    ((found.filter (·.1 == key)).map (·.2)).length ≤ rows.length := by
  rw [List.length_map]
  exact Nat.le_trans (List.length_filter_le _ _) h.length

end Keyed

end

variable [Figure α] {rows : List (Record α)}

theorem mem_falling {β : Type} {figure : β → α} {xs : List β} {x : β} :
    x ∈ falling figure xs ↔ x ∈ xs := List.mem_mergeSort

theorem mem_ranked {β : Type} {figure : β → α} {bottom : Bool} {xs : List β} {x : β} :
    x ∈ ranked figure bottom xs ↔ x ∈ xs := by
  unfold ranked
  split
  · rw [List.mem_reverse, mem_falling]
  · exact mem_falling

theorem gives_totalCell (h : Tellable rows) (t : Total) :
    Gives (t.cell rows) fun c => c.Fits t.name := by
  cases t with
  | revenue => exact gives_ok (Cell.fits_figure (by decide) _)
  | quantity => exact gives_ok (Cell.fits_figure (by decide) _)
  | orders => exact (gives_orderCount h).map fun n hn => h.fits_count hn _
  | transactions => exact gives_ok (h.fits_count (Nat.le_refl _) _)
  | customers => exact gives_ok (h.fits_count (nameCount_le .customer rows) _)
  | items => exact gives_ok (h.fits_count (nameCount_le .item rows) _)

theorem gives_totals (h : Tellable rows) (which : List Total) :
    Gives (totals rows which) Entries.Fit := by
  have hentry : ∀ t ∈ which, Gives (do return (t.name, ← t.cell rows))
      fun e : String × Cell α => e.2.Fits e.1 := fun t _ =>
    (gives_totalCell h t).map fun _ hc => hc
  exact (gives_mapM hentry).mono fun _ hes => hes.2

theorem gives_key {grouping : Grouping} (hg : grouping.IsKnown) (rows : List (Record α)) :
    Gives (grouping.key rows) fun _ => True := by
  unfold Grouping.key
  split
  · exact gives_ok trivial
  · exact gives_ok trivial
  · simp only
    split
    · exact gives_ok trivial
    · exact gives_ok trivial
  · exact hg.elim

theorem gives_keyed {grouping : Grouping} (hg : grouping.IsKnown) (rows : List (Record α)) :
    Gives (keyed grouping rows) (Keyed rows) := by
  apply (gives_key hg rows).map
  intro key _
  constructor
  · exact List.length_filterMap_le _ _
  · intro p hp
    obtain ⟨r, hr, hp⟩ := List.mem_filterMap.mp hp
    obtain ⟨k, -, rfl⟩ := Option.map_eq_some_iff.mp hp
    exact hr

theorem gives_groupCount {grouping : Grouping} (hg : grouping.IsKnown) (rows : List (Record α)) :
    Gives (groupCount grouping rows) fun n => n ≤ rows.length :=
  (gives_keyed hg rows).map fun _ hfound => hfound.length_keys_le

theorem groupCount_of_groups {grouping : Grouping} {gs : List (Group α)}
    (h : groups grouping rows = .ok gs) : groupCount grouping rows = .ok gs.length := by
  obtain ⟨found, hfound, hgs⟩ := bind_eq_ok.mp h
  rw [groupCount, hfound, length_of_mapM hgs]
  rfl

/-- Groups are made of records whose ids can be told apart, and count no more than all of them. -/
theorem gives_groups_of_ids {grouping : Grouping} (hg : grouping.IsKnown)
    (h : ∀ r ∈ rows, r.masterId.isCountable = true) :
    Gives (groups grouping rows) fun found => found.length ≤ rows.length ∧
      ∀ g ∈ found, g.orders ≤ rows.length ∧ g.transactions ≤ rows.length := by
  apply (gives_keyed hg rows).bind
  intro found hfound
  have hgroup : ∀ key ∈ (found.map (·.1)).eraseDups,
      Gives (Group.ofRows (columnSum (standTogether (found.map (·.1))) (rows.map (·.amount)))
        (columnSum (standTogether (found.map (·.1))) (rows.map (·.quantity))) key
        ((found.filter (·.1 == key)).map (·.2)))
        fun g => g.orders ≤ rows.length ∧ g.transactions ≤ rows.length := by
    intro key _
    have hmembers := hfound.length_members_le key
    apply (gives_orderCount_of_ids fun r hr => h r (hfound.mem_of_mem_members hr)).map
    intro n hn
    exact ⟨Nat.le_trans hn hmembers, hmembers⟩
  apply (gives_mapM hgroup).mono
  intro gs hgs
  refine ⟨?_, hgs.2⟩
  rw [hgs.1]
  exact hfound.length_keys_le

theorem gives_groups {grouping : Grouping} (hg : grouping.IsKnown) (h : Tellable rows) :
    Gives (groups grouping rows) fun found =>
      found.length ≤ rows.length ∧ ∀ g ∈ found, g.Small := by
  apply (gives_groups_of_ids hg h.ids).mono
  intro found hfound
  refine ⟨hfound.1, fun g hg => ?_⟩
  obtain ⟨horders, htransactions⟩ := hfound.2 g hg
  exact ⟨Nat.lt_of_le_of_lt horders h.size, Nat.lt_of_le_of_lt htransactions h.size⟩

end SalesDesk
