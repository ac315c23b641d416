import SalesDesk.Proofs.Analysis.Groups
import SalesDesk.Proofs.Figure.Exact
import SalesDesk.Proofs.Value.Same

/-!
What the groups of records are: one for each key, in the order in which the keys first appear, with
the figures of the records of that key. No record is lost in them, and none counts twice.
-/
namespace SalesDesk

section
variable {β γ : Type}

def tally (count : β → Nat) : List β → Nat
  | [] => 0
  | x :: rest => count x + tally count rest

@[simp] theorem tally_nil (count : β → Nat) : tally count [] = 0 := rfl

@[simp] theorem tally_cons (count : β → Nat) (x : β) (rest : List β) :
    tally count (x :: rest) = count x + tally count rest := rfl

theorem tally_congr {count count' : β → Nat} {xs : List β} (h : ∀ x ∈ xs, count x = count' x) :
    tally count xs = tally count' xs := by
  induction xs with
  | nil => rfl
  | cons x rest ih =>
    obtain ⟨hx, hrest⟩ := List.forall_mem_cons.mp h
    rw [tally_cons, tally_cons, hx, ih hrest]

theorem tally_perm {xs ys : List β} (h : xs.Perm ys) (count : β → Nat) :
    tally count xs = tally count ys := by
  induction h with
  | nil => rfl
  | cons x _ ih => rw [tally_cons, tally_cons, ih]
  | swap x y rest => simp only [tally_cons, Nat.add_left_comm]
  | trans _ _ ih ih' => exact ih.trans ih'

theorem length_flatMap_eq (f : β → List γ) (xs : List β) :
    (xs.flatMap f).length = tally (fun x => (f x).length) xs := by
  induction xs with
  | nil => rfl
  | cons x rest ih => rw [List.flatMap_cons, List.length_append, tally_cons, ih]

/-- Several lists together have no more different elements than each for itself. -/
theorem TellsApart.length_eraseDups_flatMap_le [BEq γ] {f : β → List γ} {xs : List β}
    (h : TellsApart (xs.flatMap f)) :
    (xs.flatMap f).eraseDups.length ≤ tally (fun x => (f x).eraseDups.length) xs := by
  induction xs with
  | nil => exact Nat.le_refl 0
  | cons x rest ih =>
    rw [List.flatMap_cons] at h ⊢
    have hrest := ih (h.mono fun a ha => List.mem_append_right _ ha)
    have hboth := h.length_eraseDups_append_le
    rw [tally_cons]
    omega

theorem Figure.sum_flatMap (f : β → List Rat) (xs : List β) :
    Figure.sum (xs.flatMap f) = Figure.sum (xs.map fun x => Figure.sum (f x)) := by
  induction xs with
  | nil => rfl
  | cons x rest ih => rw [List.flatMap_cons, List.map_cons, sum_append, sum_cons, ih]

end

section
variable {α : Type} {key : Record α → Option GroupKey} {rows : List (Record α)}

def membersOf (key : Record α → Option GroupKey) (rows : List (Record α)) (k : GroupKey) :
    List (Record α) :=
  rows.filter (key · == some k)

theorem membersOf_ne_nil {k : GroupKey} (h : k ∈ rows.filterMap key) :
    membersOf key rows k ≠ [] := by
  obtain ⟨r, hr, hk⟩ := List.mem_filterMap.mp h
  exact List.ne_nil_of_mem (List.mem_filter.mpr ⟨hr, by simp [hk]⟩)

/-- Records of another key stay when those of one key go. -/
theorem membersOf_filter {k k' : GroupKey} (h : k' ≠ k) (rows : List (Record α)) :
    membersOf key (rows.filter fun r => !key r == some k) k' = membersOf key rows k' := by
  unfold membersOf
  rw [List.filter_filter]
  apply List.filter_congr
  intro r _
  by_cases hr : key r = some k'
  · simp [hr, h]
  · simp [hr]

/-- The records of all keys together are the records that have one. -/
theorem perm_flatMap_membersOf {ks : List GroupKey} (hks : ks.Nodup)
    (hcovered : ∀ r ∈ rows, ∃ k ∈ ks, key r = some k) :
    (ks.flatMap (membersOf key rows)).Perm rows := by
  induction ks generalizing rows with
  | nil =>
    have hrows : rows = [] := List.eq_nil_iff_forall_not_mem.mpr fun r hr => by
      obtain ⟨k, hk, -⟩ := hcovered r hr
      cases hk
    rw [hrows]
    exact .nil
  | cons k rest ih =>
    obtain ⟨hk, hrest⟩ := List.nodup_cons.mp hks
    have hothers : rest.flatMap (membersOf key (rows.filter fun r => !key r == some k)) =
        rest.flatMap (membersOf key rows) :=
      List.flatMap_congr fun k' hk' => membersOf_filter (ne_of_mem_of_not_mem hk' hk) rows
    have hleft : ∀ r ∈ rows.filter fun r => !key r == some k, ∃ k' ∈ rest, key r = some k' := by
      intro r hr
      obtain ⟨hr, hne⟩ := List.mem_filter.mp hr
      obtain ⟨k', hk', hkey⟩ := hcovered r hr
      rcases List.mem_cons.mp hk' with rfl | hk'
      · simp [hkey] at hne
      · exact ⟨k', hk', hkey⟩
    have hperm := ih hrest hleft
    rw [hothers] at hperm
    rw [List.flatMap_cons]
    exact (hperm.append_left _).trans (List.filter_append_perm _ rows)

theorem map_fst_keyed (key : Record α → Option GroupKey) (rows : List (Record α)) :
    (rows.filterMap fun r => (key r).map (·, r)).map (·.1) = rows.filterMap key := by
  rw [List.map_filterMap]
  simp only [Option.map_map]
  exact congrArg (List.filterMap · rows) (funext fun r => congrFun Option.map_id (key r))

theorem map_snd_keyed (key : Record α → Option GroupKey) (rows : List (Record α)) (k : GroupKey) :
    ((rows.filterMap fun r => (key r).map (·, r)).filter (·.1 == k)).map (·.2) =
      membersOf key rows k := by
  unfold membersOf
  induction rows with
  | nil => rfl
  | cons r rest ih =>
    cases hr : key r with
    | none => simp [hr, ih]
    | some k' =>
      by_cases hk : k' = k
      · simp [hr, hk, ih]
      · simp [hr, hk, ih]

/-- The figures of a group are those of some records, added as given. -/
structure Group.IsOf (addAmounts addQuantities : List α → α) (members : List (Record α))
    (g : Group α) : Prop where
  revenue : g.revenue = addAmounts (members.map (·.amount))
  quantity : g.quantity = addQuantities (members.map (·.quantity))
  orders : orderCount members = .ok g.orders
  transactions : g.transactions = members.length

theorem Group.isOf_of_ofRows {addAmounts addQuantities : List α → α} {k : GroupKey}
    {members : List (Record α)} {g : Group α}
    (h : ofRows addAmounts addQuantities k members = .ok g) :
    g.IsOf addAmounts addQuantities members ∧ g.key = k := by
  obtain ⟨n, hn, hg⟩ := bind_eq_ok.mp h
  cases hg
  exact ⟨⟨rfl, rfl, hn, rfl⟩, rfl⟩

theorem HaveIds.members (h : HaveIds rows) (k : GroupKey) : HaveIds (membersOf key rows k) :=
  fun r hr => h r (List.mem_filter.mp hr).1

theorem HaveIds.tellsApart (h : HaveIds rows) : TellsApart (rows.map (·.masterId)) := by
  refine ⟨fun id hid => ?_, fun _ _ => Value.same_symm, fun _ _ _ => Value.same_trans⟩
  obtain ⟨r, hr, rfl⟩ := List.mem_map.mp hid
  exact Value.same_self (h r hr).1 (h r hr).2

variable [Figure α] {gs : List (Group α)}

/-- One group for each key, in the order in which the keys first appear, with the figures of the
records of that key. -/
structure Grouped (key : Record α → Option GroupKey) (rows : List (Record α))
    (gs : List (Group α)) : Prop where
  keys : gs.map Group.key = (rows.filterMap key).eraseDups
  figures : ∀ g ∈ gs, g.IsOf
    (columnSum (standTogether (rows.filterMap key)) (rows.map (·.amount)))
    (columnSum (standTogether (rows.filterMap key)) (rows.map (·.quantity)))
    (membersOf key rows g.key)

theorem grouped_of_groups {grouping : Grouping} (h : groups grouping rows = .ok gs) :
    ∃ key, grouping.key rows = .ok key ∧ Grouped key rows gs := by
  obtain ⟨found, hfound, hgs⟩ := bind_eq_ok.mp h
  obtain ⟨key, hkey, hpairs⟩ := bind_eq_ok.mp hfound
  cases hpairs
  simp only [map_fst_keyed, map_snd_keyed] at hgs
  have hsteps := (mapM_eq_ok_iff.mp hgs).imp fun k g hg => Group.isOf_of_ofRows hg
  have hgroups : List.Forall₂ (fun g k => g.IsOf
      (columnSum (standTogether (rows.filterMap key)) (rows.map (·.amount)))
      (columnSum (standTogether (rows.filterMap key)) (rows.map (·.quantity)))
      (membersOf key rows g.key) ∧ g.key = k) gs (rows.filterMap key).eraseDups := by
    apply List.Forall₂.flip
    apply hsteps.imp
    rintro _ g ⟨hg, rfl⟩
    exact ⟨hg, rfl⟩
  obtain ⟨hfigures, hkeys⟩ := (List.forall₂_and_left _ _).mp hgroups
  refine ⟨key, hkey, ?_, hfigures⟩
  rwa [← List.forall₂_eq_eq_eq, List.forall₂_map_left_iff]

/-- Groups can be made of records whose ids can be told apart. -/
theorem gives_grouped {grouping : Grouping} (hg : grouping.IsKnown)
    (hids : ∀ r ∈ rows, r.masterId.isCountable = true) :
    Gives (groups grouping rows) fun gs =>
      ∃ key, grouping.key rows = .ok key ∧ Grouped key rows gs := by
  obtain ⟨gs, hgs, -⟩ := gives_groups_of_ids hg hids
  exact ⟨gs, hgs, grouped_of_groups hgs⟩

namespace Grouped

theorem nodup_keys (h : Grouped key rows gs) : (gs.map Group.key).Nodup := by
  rw [h.keys]
  exact nodup_eraseDups _

theorem mem_keys (h : Grouped key rows gs) {g : Group α} (hg : g ∈ gs) :
    g.key ∈ rows.filterMap key := by
  rw [← List.mem_eraseDups, ← h.keys]
  exact List.mem_map_of_mem hg

/-- If each record has a key, the records of all groups are the given ones. -/
theorem perm_members (h : Grouped key rows gs) (hall : ∀ r ∈ rows, (key r).isSome = true) :
    (gs.flatMap fun g => membersOf key rows g.key).Perm rows := by
  have hcovered : ∀ r ∈ rows, ∃ k ∈ gs.map Group.key, key r = some k := by
    intro r hr
    obtain ⟨k, hk⟩ := Option.isSome_iff_exists.mp (hall r hr)
    refine ⟨k, ?_, hk⟩
    rw [h.keys, List.mem_eraseDups]
    exact List.mem_filterMap.mpr ⟨r, hr, hk⟩
  have hperm := perm_flatMap_membersOf h.nodup_keys hcovered
  rwa [List.flatMap_map] at hperm

/-- Each record is one transaction of one group. -/
theorem tally_transactions (h : Grouped key rows gs)
    (hall : ∀ r ∈ rows, (key r).isSome = true) : tally Group.transactions gs = rows.length := by
  rw [tally_congr fun g hg => (h.figures g hg).transactions, ← length_flatMap_eq]
  exact (h.perm_members hall).length_eq

theorem orders_eq (h : Grouped key rows gs) (hids : HaveIds rows) {g : Group α} (hg : g ∈ gs) :
    g.orders = ((membersOf key rows g.key).map (·.masterId)).eraseDups.length := by
  have horders := (h.figures g hg).orders
  rw [orderCount_eq (hids.members g.key)] at horders
  exact (Except.ok.inj horders).symm

/-- A group has an order, and no more orders than transactions. -/
theorem orders_bounds (h : Grouped key rows gs) (hids : HaveIds rows) {g : Group α}
    (hg : g ∈ gs) : 1 ≤ g.orders ∧ g.orders ≤ g.transactions := by
  have hmembers := membersOf_ne_nil (h.mem_keys hg)
  rw [h.orders_eq hids hg, (h.figures g hg).transactions]
  refine ⟨length_eraseDups_pos (by simpa using hmembers), ?_⟩
  simpa using length_eraseDups_le ((membersOf key rows g.key).map (·.masterId))

theorem orders_le_tally (h : Grouped key rows gs) (hids : HaveIds rows)
    (hall : ∀ r ∈ rows, (key r).isSome = true) :
    ∃ n, orderCount rows = .ok n ∧ n ≤ tally Group.orders gs := by
  refine ⟨_, orderCount_eq hids, ?_⟩
  have hperm := (h.perm_members hall).map (·.masterId)
  rw [List.map_flatMap] at hperm
  rw [hids.tellsApart.length_eraseDups_of_perm hperm.symm,
    tally_congr fun g hg => h.orders_eq hids hg]
  apply TellsApart.length_eraseDups_flatMap_le
  exact hids.tellsApart.mono fun id hid => hperm.mem_iff.mp hid

end Grouped

end

section
variable {key : Record Rat → Option GroupKey} {rows : List (Record Rat)} {gs : List (Group Rat)}

theorem columnSum_eq (together : Bool) (column : List Rat) :
    columnSum together column = Figure.sum := by
  funext xs
  unfold columnSum
  split
  · exact Figure.runSum_eq xs
  · exact Figure.scatteredSum_eq xs

namespace Grouped

/-- A figure that each group adds up over its records is added up over all records by all groups. -/
theorem sum_eq_total (h : Grouped key rows gs) (hall : ∀ r ∈ rows, (key r).isSome = true)
    {figure : Group Rat → Rat} {field : Record Rat → Rat}
    (hfigure : ∀ g ∈ gs, figure g = Figure.sum ((membersOf key rows g.key).map field)) :
    Figure.sum (gs.map figure) = Figure.total (rows.map field) := by
  rw [List.map_congr_left hfigure, ← Figure.sum_flatMap, ← List.map_flatMap, Figure.total_eq]
  exact Figure.sum_perm ((h.perm_members hall).map _)

theorem sum_revenue (h : Grouped key rows gs) (hall : ∀ r ∈ rows, (key r).isSome = true) :
    Figure.sum (gs.map Group.revenue) = revenueOf rows :=
  h.sum_eq_total hall fun g hg => by rw [(h.figures g hg).revenue, columnSum_eq]

theorem sum_quantity (h : Grouped key rows gs) (hall : ∀ r ∈ rows, (key r).isSome = true) :
    Figure.sum (gs.map Group.quantity) = quantityOf rows :=
  h.sum_eq_total hall fun g hg => by rw [(h.figures g hg).quantity, columnSum_eq]

end Grouped

end

/-- A sale without a customer and two of customers that are named, one of them as if it had none. -/
def namelessSales {α : Type} [Figure α] : List (Record α) := [
  ⟨"", "Rod", "Steel", "North", Figure.ofInt 30, Figure.ofInt 3, .int 1, ⟨2024, 4, 2⟩, true, none⟩,
  ⟨"Zen", "Bag", "Cement", "South", Figure.ofInt 50, Figure.ofInt 1, .text "m2", ⟨2023, 5, 9⟩,
    true, none⟩,
  ⟨"Unknown", "Rod", "Steel", "South", Figure.ofInt 10, Figure.ofInt 5, .int 1, ⟨2024, 4, 5⟩,
    true, none⟩]

theorem namelessSales_ne_nil {α : Type} [Figure α] : namelessSales (α := α) ≠ [] :=
  List.cons_ne_nil _ _

theorem haveIds_namelessSales {α : Type} [Figure α] : HaveIds (namelessSales (α := α)) := by
  simp [HaveIds, namelessSales, Value.isCountable, Value.isMissingId, Value.isNotANumber]

/-- Two records of one order, whose id is a list. -/
def listedOrders : List (Record Float) := [
  ⟨"Acme", "Rod", "Steel", "North", 30, 3, .list [.int 1], ⟨2024, 4, 2⟩, true, none⟩,
  ⟨"Zen", "Bag", "Cement", "South", 20, 1, .list [.int 1], ⟨2024, 4, 2⟩, true, none⟩]

end SalesDesk
