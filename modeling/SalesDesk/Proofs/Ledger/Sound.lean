import SalesDesk.Ledger.Dataset
import SalesDesk.Proofs.Calendar.Near
import SalesDesk.Proofs.Distinct
import SalesDesk.Proofs.Ledger.Rows
import SalesDesk.Proofs.Value.Entries
import Mathlib.Tactic.SplitIfs

/-!
What holds of ledgers that are read from raw rows: their days are near enough for a machine to
count, and their ids can be told apart.
-/
namespace SalesDesk

namespace Intake

/-! What holds of all values of a row holds of what the row says under each name. -/

section
variable {P : Value → Prop} {row : Entries Value}

theorem forall_merge {found : Entries Value} (h : ∀ f ∈ found, P f.2) (name : String)
    {v : Value} (hv : P v) : ∀ f ∈ merge found name v, P f.2 := by
  unfold merge
  split_ifs
  · exact Entries.forall_put h hv
  · exact h

theorem forall_canonical (h : ∀ f ∈ row, P f.2) : ∀ f ∈ canonical row, P f.2 := by
  have hfold : ∀ found : Entries Value, (∀ f ∈ found, P f.2) →
      ∀ f ∈ row.foldl (fun found f => merge found (fieldName f.1) f.2) found, P f.2 := by
    induction row with
    | nil => exact fun _ hfound => hfound
    | cons first rest ih =>
      intro found hfound
      exact ih (fun f hf => h f (List.mem_cons_of_mem _ hf)) _
        (forall_merge hfound _ (h first List.mem_cons_self))
  exact hfold [] nofun

theorem of_fieldOf (h : ∀ f ∈ row, P f.2) (hnull : P .null) (field : Field) :
    P (fieldOf row field) := by
  unfold fieldOf
  cases hv : row.lookup field.name with
  | none => exact hnull
  | some v =>
    obtain ⟨before, after, rfl, -⟩ := List.lookup_eq_some_iff.mp hv
    exact h (field.name, v) (by simp)

end

/-- What holds of each record that is read holds of all of them. -/
theorem forall_of_readRowsFrom {P : Record Float → Prop} {index : Nat} {rows : List Row}
    {today : Date} {records : List (Record Float)}
    (hrows : ∀ row ∈ rows, ∀ index r, readRow index row today = .ok r → P r)
    (h : readRowsFrom index rows today = .ok records) : ∀ r ∈ records, P r := by
  induction rows generalizing index records with
  | nil =>
    cases h
    exact nofun
  | cons row rest ih =>
    unfold readRowsFrom at h
    obtain ⟨r, hr, h⟩ := bind_eq_ok.mp h
    obtain ⟨others, hothers, h⟩ := bind_eq_ok.mp h
    cases h
    exact List.forall_mem_cons.mpr ⟨hrows row List.mem_cons_self _ r hr,
      ih (fun other hother => hrows other (List.mem_cons_of_mem _ hother)) hothers⟩

/-- A row that holds raw values only. -/
def Row.IsRaw : Row → Prop
  | .raw v => v.IsRaw
  | .built _ => False

theorem onCalendar_of_readDay {index : Nat} {v : Value} {today d : Date} (hv : v.OnCalendar)
    (h : readDay index v today = .ok d) : d.OnCalendar := by
  unfold readDay at h
  split at h
  · cases h
    exact DayReading.onCalendar_of_ofValue hv ‹_›
  · cases h
  · exact absurd h (refuse_ne_ok _ _ _ _)
  all_goals cases h

theorem isNear_of_readDay {index : Nat} {v : Value} {today d : Date} (hv : v.IsRaw)
    (h : readDay index v today = .ok d) : d.IsNear :=
  (onCalendar_of_readDay hv.onCalendar h).isNear

theorem isNear_of_readRow {index : Nat} {row : Row} {today : Date} {r : Record Float}
    (hrow : row.IsRaw) (h : readRow index row today = .ok r) : r.date.IsNear := by
  match row, hrow with
  | .raw (.object fields), .object hfields =>
    exact isNear_of_readDay (of_fieldOf (forall_canonical hfields) .null .date)
      (readFields_eq_ok_iff.mp h).date

theorem length_of_readRowsFrom {index : Nat} {rows : List Row} {today : Date}
    {records : List (Record Float)} (h : readRowsFrom index rows today = .ok records) :
    records.length = rows.length := by
  rw [readRowsFrom_eq] at h
  rw [length_of_mapM h, List.length_zipIdx]

theorem isRaw_rowsOf {v : Value} (hv : v.IsRaw) {rows : List Row} (h : rowsOf v = .ok rows) :
    ∀ row ∈ rows, row.IsRaw := by
  cases hv with
  | null =>
    cases h
    exact nofun
  | bool | int | number => cases h
  | text s =>
    cases h
    intro row hrow
    obtain ⟨c, -, rfl⟩ := List.mem_map.mp hrow
    exact .text _
  | list hitems =>
    cases h
    intro row hrow
    obtain ⟨v, hv, rfl⟩ := List.mem_map.mp hrow
    exact hitems v hv
  | object hfields =>
    cases h
    intro row hrow
    obtain ⟨f, -, rfl⟩ := List.mem_map.mp hrow
    exact .text _

end Intake

section
variable {α : Type}

/-- Can the records be told apart, and counted by a machine? -/
structure Tellable (rows : List (Record α)) : Prop where
  ids : ∀ r ∈ rows, r.masterId.isCountable = true
  size : rows.length < 0x8000000000000000

theorem Tellable.some {rs ss : List (Record α)} (h : Tellable rs) (hmem : ∀ r ∈ ss, r ∈ rs)
    (hlength : ss.length ≤ rs.length) : Tellable ss :=
  ⟨fun r hr => h.ids r (hmem r hr), Nat.lt_of_le_of_lt hlength h.size⟩

theorem Tellable.filter {rs : List (Record α)} (h : Tellable rs) (p : Record α → Bool) :
    Tellable (rs.filter p) :=
  h.some (fun _ hr => (List.mem_filter.mp hr).1) (List.length_filter_le p rs)

theorem distinctIds_eq {ids : List Value} (h : ∀ v ∈ ids, v.isCountable = true) :
    distinctIds ids = .ok ids.eraseDups := by
  have hnone : ids.find? (!·.isCountable) = none :=
    List.find?_eq_none.mpr fun v hv => by simp [h v hv]
  rw [distinctIds, hnone]

theorem gives_distinctIds {ids : List Value} (h : ∀ v ∈ ids, v.isCountable = true) :
    Gives (distinctIds ids) fun found => found.length ≤ ids.length := by
  rw [distinctIds_eq h]
  exact gives_ok (length_eraseDups_le ids)

theorem isCountable_of_distinctIds {ids found : List Value} (h : distinctIds ids = .ok found) :
    ∀ v ∈ ids, v.isCountable = true := by
  unfold distinctIds at h
  split at h
  · cases h
  · rename_i hnone
    intro v hv
    simpa using List.find?_eq_none.mp hnone v hv

theorem isNear_of_dateRange {records : List (Record α)} (h : ∀ r ∈ records, r.date.IsNear)
    {first last : Date} (hspan : dateRange records = some (first, last)) :
    first.IsNear ∧ last.IsNear := by
  have hfold : ∀ {join : Date → Date → Date},
      (∀ d e : Date, d.IsNear → e.IsNear → (join d e).IsNear) →
      ∀ (rest : List (Record α)) (d : Date), (∀ r ∈ rest, r.date.IsNear) → d.IsNear →
        (rest.foldl (fun d r => join d r.date) d).IsNear := by
    intro join hjoin rest
    induction rest with
    | nil => exact fun _ _ hd => hd
    | cons r rest ih =>
      exact fun d hrest hd => ih _ (fun s hs => hrest s (List.mem_cons_of_mem _ hs))
        (hjoin d r.date hd (hrest r List.mem_cons_self))
  cases records with
  | nil => cases hspan
  | cons r rest =>
    cases hspan
    obtain ⟨hr, hrest⟩ := List.forall_mem_cons.mp h
    exact ⟨hfold (fun _ _ => Date.IsNear.earlier) rest _ hrest hr,
      hfold (fun _ _ => Date.IsNear.later) rest _ hrest hr⟩

end

namespace Dataset

variable {α : Type} [Figure α]

structure Sound (d : Dataset α) : Prop where
  tellable : Tellable d.table
  near : ∀ r ∈ d.records, r.date.IsNear
  size : d.records.length < 0x8000000000000000
  orders : d.metrics.totalOrders.natAbs < 0x8000000000000000
  customers : d.metrics.uniqueCustomers.natAbs < 0x8000000000000000

theorem isCountable_entry (column : IdColumn) {id : Value} (h : id.isCountable = true) :
    (column.entry id).isCountable = true := by
  unfold IdColumn.entry
  split
  · rfl
  · rfl
  · exact h

/-- Key figures exist only for records that can be told apart, and count no more than these. -/
theorem counts_of_metrics {records : List (Record α)} {m : Metrics α}
    (h : Metrics.ofRecords records = .ok m) :
    (∀ r ∈ records, r.masterId.isCountable = true) ∧ m.totalOrders.natAbs ≤ records.length ∧
      m.uniqueCustomers.natAbs ≤ records.length := by
  unfold Metrics.ofRecords at h
  split_ifs at h with hempty
  · cases h
    rw [List.isEmpty_iff.mp hempty]
    exact ⟨nofun, Nat.le_refl _, Nat.le_refl _⟩
  · obtain ⟨ids, hids, h⟩ := bind_eq_ok.mp h
    have hcountable := isCountable_of_distinctIds hids
    obtain ⟨_, hids', hlength⟩ := gives_distinctIds hcountable
    obtain rfl := Except.ok.inj (hids'.symm.trans hids)
    have hcustomers := length_eraseDups_le (records.map (·.customer))
    rw [List.length_map] at hlength hcustomers
    cases h
    exact ⟨fun r hr => hcountable _ (List.mem_map_of_mem hr), hlength, hcustomers⟩

theorem isCountable_of_ofRecords {records : List (Record α)} {d : Dataset α}
    (h : ofRecords records none = .ok d) : ∀ r ∈ d.table, r.masterId.isCountable = true := by
  obtain ⟨metrics, hmetrics, h⟩ := bind_eq_ok.mp h
  cases h
  intro r hr
  obtain ⟨r', hr', rfl⟩ := List.mem_map.mp hr
  exact isCountable_entry _ ((counts_of_metrics hmetrics).1 r' hr')

theorem sound_of_ofRecords {records : List (Record α)} {d : Dataset α}
    (h : ofRecords records none = .ok d) (hnear : ∀ r ∈ records, r.date.IsNear)
    (hsize : records.length < 0x8000000000000000) : d.Sound := by
  have hids := isCountable_of_ofRecords h
  obtain ⟨metrics, hmetrics, h⟩ := bind_eq_ok.mp h
  cases h
  obtain ⟨-, horders, hcustomers⟩ := counts_of_metrics hmetrics
  exact ⟨⟨hids, by simpa [tableOf] using hsize⟩, hnear, hsize,
    Nat.lt_of_le_of_lt horders hsize, Nat.lt_of_le_of_lt hcustomers hsize⟩

theorem sound_of_ofRows {rows : List Intake.Row} {today : Date} {d : Dataset Float}
    (hrows : ∀ row ∈ rows, row.IsRaw) (hlength : rows.length < 0x8000000000000000)
    (h : ofRows rows .null today = .ok d) : d.Sound := by
  unfold ofRows at h
  obtain ⟨_, hmetrics, h⟩ := bind_eq_ok.mp h
  cases hmetrics
  obtain ⟨records, hrecords, h⟩ := bind_eq_ok.mp h
  apply sound_of_ofRecords h (Intake.forall_of_readRowsFrom
    (fun row hrow _ _ => Intake.isNear_of_readRow (hrows row hrow)) hrecords)
  rwa [Intake.length_of_readRowsFrom hrecords]

end Dataset

end SalesDesk
