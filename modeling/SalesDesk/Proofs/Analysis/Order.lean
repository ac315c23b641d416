import SalesDesk.Proofs.Analysis.Grouped
import SalesDesk.Proofs.Figure.Order

/-!
The order of groups: by a figure that falls, where equal ones keep their order, or by the months of
the calendar.
-/
namespace SalesDesk

section
variable {α β : Type} [Figure α] {figure : β → α} {xs ys : List β}

/-- The same elements from the largest figure down, those of one figure in the order in which they
stood. -/
structure FallingFrom (figure : β → α) (xs ys : List β) : Prop where
  perm : ys.Perm xs
  falls : ys.Pairwise fun a b => Figure.falls (figure a) (figure b) = true
  stable : ∀ a b, Figure.falls (figure a) (figure b) = true → [a, b].Sublist xs → [a, b].Sublist ys

theorem fallingFrom_falling [Figure.Ordered α] (figure : β → α) (xs : List β) :
    FallingFrom figure xs (falling figure xs) := by
  have htrans : ∀ a b c : β, Figure.falls (figure a) (figure b) = true →
      Figure.falls (figure b) (figure c) = true → Figure.falls (figure a) (figure c) = true :=
    fun a b c => Figure.falls_trans (figure a) (figure b) (figure c)
  have htotal : ∀ a b : β,
      (Figure.falls (figure a) (figure b) || Figure.falls (figure b) (figure a)) = true :=
    fun a b => Figure.falls_total (figure a) (figure b)
  exact {
    perm := List.mergeSort_perm xs _
    falls := List.pairwise_mergeSort htrans htotal xs
    stable := fun a b => List.pair_sublist_mergeSort htrans htotal }

end

namespace GroupKey

def IsMonth : GroupKey → Prop
  | month _ _ => True
  | _ => False

def Earlier : GroupKey → GroupKey → Prop
  | month y m, month y' m' => y < y' ∨ y = y' ∧ m < m'
  | _, _ => False

/-- The year and the month of a key that is a month. -/
def place : GroupKey → Nat × Nat
  | month year number => (year, number)
  | _ => (0, 0)

def placeLe (p q : Nat × Nat) : Bool := p.1 < q.1 || p.1 == q.1 && p.2 ≤ q.2

theorem placeLe_iff (p q : Nat × Nat) :
    placeLe p q = true ↔ p.1 < q.1 ∨ p.1 = q.1 ∧ p.2 ≤ q.2 := by
  simp [placeLe]

theorem placeLe_trans (p q r : Nat × Nat) (h : placeLe p q = true) (h' : placeLe q r = true) :
    placeLe p r = true := by
  rw [placeLe_iff] at h h' ⊢
  omega

theorem placeLe_total (p q : Nat × Nat) : (placeLe p q || placeLe q p) = true := by
  rw [Bool.or_eq_true, placeLe_iff, placeLe_iff]
  omega

theorem placeLe_antisymm {p q : Nat × Nat} (h : placeLe p q = true) (h' : placeLe q p = true) :
    p = q := by
  rw [placeLe_iff] at h h'
  apply Prod.ext <;> omega

variable {a b : GroupKey}

theorem IsMonth.eq (h : a.IsMonth) : a = .month a.place.1 a.place.2 := by
  cases a with
  | month => rfl
  | name | day => exact h.elim

theorem monthLe_eq (ha : a.IsMonth) (hb : b.IsMonth) : a.monthLe b = placeLe a.place b.place := by
  rw [ha.eq, hb.eq]
  rfl

theorem earlier_iff (ha : a.IsMonth) (hb : b.IsMonth) :
    a.Earlier b ↔ placeLe a.place b.place = true ∧ a ≠ b := by
  rw [ha.eq, hb.eq, placeLe_iff, ne_eq, month.injEq]
  simp only [Earlier, place]
  omega

end GroupKey

section
variable {α : Type} {gs : List (Group α)}

/-- Months are sorted by their places in the calendar. Other keys than months have no order that
sorting could rely on. -/
theorem mergeSort_monthLe_eq (hmonths : ∀ g ∈ gs, g.key.IsMonth) :
    gs.mergeSort (fun a b => a.key.monthLe b.key) =
      gs.mergeSort fun a b => GroupKey.placeLe a.key.place b.key.place := by
  have hmap := List.map_mergeSort (f := id) (l := gs) (r := fun a b => a.key.monthLe b.key)
    (s := fun a b => GroupKey.placeLe a.key.place b.key.place) fun a ha b hb =>
      GroupKey.monthLe_eq (hmonths a ha) (hmonths b hb)
  rwa [List.map_id, List.map_id] at hmap

theorem pairwise_mergeSort_placeLe (gs : List (Group α)) :
    (gs.mergeSort fun a b => GroupKey.placeLe a.key.place b.key.place).Pairwise
      fun a b => GroupKey.placeLe a.key.place b.key.place = true :=
  List.pairwise_mergeSort
    (fun a b c => GroupKey.placeLe_trans a.key.place b.key.place c.key.place)
    (fun a b => GroupKey.placeLe_total a.key.place b.key.place) gs

theorem pairwise_earlier_mergeSort (hmonths : ∀ g ∈ gs, g.key.IsMonth)
    (hkeys : (gs.map Group.key).Nodup) :
    (gs.mergeSort fun a b => a.key.monthLe b.key).Pairwise fun a b => a.key.Earlier b.key := by
  rw [mergeSort_monthLe_eq hmonths]
  have hperm := List.mergeSort_perm gs fun a b => GroupKey.placeLe a.key.place b.key.place
  have hdifferent := List.pairwise_map.mp ((hperm.map Group.key).nodup_iff.mpr hkeys)
  apply ((pairwise_mergeSort_placeLe gs).and hdifferent).imp_of_mem
  intro a b ha hb hab
  have ha := hmonths a (hperm.mem_iff.mp ha)
  have hb := hmonths b (hperm.mem_iff.mp hb)
  exact (GroupKey.earlier_iff ha hb).mpr hab

theorem Grouped.isMonth [Figure α] {rows : List (Record α)} {key : Record α → Option GroupKey}
    (h : Grouped key rows gs) (hkey : Grouping.month.key rows = .ok key) :
    ∀ g ∈ gs, g.key.IsMonth := by
  intro g hg
  obtain ⟨r, -, hr⟩ := List.mem_filterMap.mp (h.mem_keys hg)
  cases hkey
  rw [← Option.some.inj hr]
  trivial

end

end SalesDesk
