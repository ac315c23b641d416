import SalesDesk.Proofs.Analysis.Groups
import SalesDesk.Proofs.Figure.Exact
import SalesDesk.Proofs.Ledger.Agreement

/-!
The key figures that are computed with a ledger are those of the rows of its table, where arithmetic
is exact and the ids are of one kind.
-/
namespace SalesDesk

/-- All ids are texts, or all are integers. -/
def IdColumn.Uniform (ids : List Value) : Prop :=
  (∀ id ∈ ids, ∃ s, id = .text s) ∨ ∀ id ∈ ids, ∃ n, id = .int n

namespace IdColumn.Uniform

variable {ids : List Value}

theorem plain (h : Uniform ids) {id : Value} (hid : id ∈ ids) :
    id.isCountable = true ∧ id.isMissingId = false := by
  rcases h with h | h
  · obtain ⟨s, rfl⟩ := h id hid
    exact ⟨rfl, rfl⟩
  · obtain ⟨n, rfl⟩ := h id hid
    exact ⟨rfl, rfl⟩

theorem ofIds_ne_doubles (h : ∀ id ∈ ids, ∃ n, id = .int n) : ofIds ids ≠ .doubles := by
  intro hdoubles
  unfold ofIds at hdoubles
  dsimp only at hdoubles
  split at hdoubles
  · cases hdoubles
  split at hdoubles
  · cases hdoubles
  split at hdoubles
  · cases hdoubles
  split at hdoubles
  · rename_i hsome
    rcases Bool.or_eq_true_iff.mp hsome with hdouble | hmissing
    · obtain ⟨id, hid, hmatches⟩ := List.any_eq_true.mp hdouble
      obtain ⟨n, rfl⟩ := h id hid
      cases hmatches
    · obtain ⟨id, hid, hmatches⟩ := List.any_eq_true.mp (Bool.and_eq_true_iff.mp hmissing).2
      obtain ⟨n, rfl⟩ := h id hid
      cases hmatches
  · split at hdoubles <;> cases hdoubles

theorem entry_eq (h : Uniform ids) {id : Value} (hid : id ∈ ids) :
    (ofIds ids).entry id = id := by
  rcases h with h | h
  · obtain ⟨s, rfl⟩ := h id hid
    cases ofIds ids <;> rfl
  · have hcolumn := ofIds_ne_doubles h
    obtain ⟨n, rfl⟩ := h id hid
    cases hids : ofIds ids with
    | doubles => exact absurd hids hcolumn
    | mixed | words | moments => rfl

theorem distinctIds_eq (h : Uniform ids) : distinctIds ids = .ok ids.eraseDups :=
  SalesDesk.distinctIds_eq fun _ hid => (h.plain hid).1

end IdColumn.Uniform

theorem orderCount_of_uniform {α : Type} {rs : List (Record α)}
    (h : IdColumn.Uniform (rs.map (·.masterId))) :
    orderCount rs = .ok (rs.map (·.masterId)).eraseDups.length :=
  orderCount_eq fun _ hr => h.plain (List.mem_map_of_mem hr)

/-- The average for each order is the quotient of the totals. -/
theorem Metrics.average_eq {revenue : Rat} {orders : Nat} (h : 0 < orders) :
    (let average := (Figure.divide? revenue (Figure.ofInt orders)).getD Figure.zero
      if Figure.isZero average then Figure.zero else average) =
      revenue / ((orders : Int) : Rat) := by
  have hne : (Figure.ofInt orders : Rat) ≠ 0 := Figure.ofInt_ne_zero (Int.natCast_pos.mpr h)
  simp only [Figure.divide?_eq hne, Option.getD_some]
  split
  · rename_i hzero
    exact (eq_of_beq hzero).symm
  · rfl

namespace Dataset

theorem tableOf_of_uniform {α : Type} {rs : List (Record α)}
    (h : IdColumn.Uniform (rs.map (·.masterId))) : tableOf rs = rs := by
  have hrow : ∀ r ∈ rs,
      ({ r with masterId := (IdColumn.ofIds (rs.map (·.masterId))).entry r.masterId } :
        Record α) = r := by
    intro r hr
    rw [h.entry_eq (List.mem_map_of_mem hr)]
  exact (List.map_congr_left hrow).trans (List.map_id' rs)

/-- The key figures are those of the rows of the table, and there is at least one order. -/
structure Accounted (d : Dataset Rat) : Prop where
  size : d.size = d.table.length
  revenue : d.metrics.totalRevenue = revenueOf d.table
  quantity : d.metrics.totalQuantity = quantityOf d.table
  customers : d.metrics.uniqueCustomers = nameCount .customer d.table
  orders : ∃ n : Nat, orderCount d.table = .ok n ∧ d.metrics.totalOrders = n ∧ 0 < n
  average : d.metrics.avgOrderValue = d.metrics.totalRevenue / (d.metrics.totalOrders : Rat)

/-- Metrics are computed from the records, which are the rows of the table as they stand. -/
theorem accounted_of_ofRecords {rs : List (Record Rat)} {d : Dataset Rat} (hrows : rs ≠ [])
    (h : IdColumn.Uniform (rs.map (·.masterId))) (hd : ofRecords rs none = .ok d) :
    d.Accounted := by
  obtain ⟨hrecords, htable, -, hmetrics⟩ := made_of_ofRecords hd
  obtain rfl : d.table = rs := htable.trans (tableOf_of_uniform h)
  have hempty : d.table.isEmpty = false := by simpa using hrows
  have horders : 0 < (d.table.map (·.masterId)).eraseDups.length :=
    length_eraseDups_pos (by simpa using hrows)
  simp only [Metrics.ofRecords, hempty, h.distinctIds_eq, ok_bind] at hmetrics
  have hm := (Except.ok.inj hmetrics).symm
  constructor
  · rw [size, hrecords]
  · rw [hm, revenueOf, Figure.total_eq]
  · rw [hm, quantityOf, Figure.total_eq]
  · rw [hm]
    rfl
  · exact ⟨_, orderCount_of_uniform h, by rw [hm], horders⟩
  · rw [hm]
    exact Metrics.average_eq horders

end Dataset

end SalesDesk
