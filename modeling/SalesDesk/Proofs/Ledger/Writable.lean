import SalesDesk.Proofs.Ledger.Sound
import SalesDesk.Proofs.Number.Range
import SalesDesk.Proofs.Value.Read

/-!
Ledgers in which every integer can be written: the ids, and the two key figures that are counts.
Whatever is loaded from JSON texts is such a ledger.
-/
namespace SalesDesk

theorem Number.isWritable_integerPart {x : Float} (h : x.isFinite = true) :
    isWritable (integerPart x) = true := by
  have hunit : overflow ≤ Nat.pow 2 54 * Nat.pow 2 halfPlace :=
    Nat.mul_le_mul_right _ (Nat.le_of_ble_eq_true rfl)
  have hpow : Nat.pow 2 54 * Nat.pow 2 halfPlace = Nat.pow 2 (54 + halfPlace) :=
    (Nat.pow_add 2 54 halfPlace).symm
  have hbase : Nat.pow 2 (54 + halfPlace) ≤ Nat.pow 10 (54 + halfPlace) :=
    Nat.pow_le_pow_left (by decide) _
  have hdigits : 54 + halfPlace ≤ maxIntegerDigits := by
    rw [halfPlace_eq]
    simp [maxIntegerDigits]
  rw [isWritable_iff]
  calc (integerPart x).natAbs < overflow := natAbs_integerPart_lt h
    _ ≤ Nat.pow 10 (54 + halfPlace) := hunit.trans (hpow.trans_le hbase)
    _ ≤ leastTooLong := pow_le_leastTooLong hdigits

theorem Record.holdsLongInteger_toFields (r : Record Float) :
    (Value.object r.toFields).holdsLongInteger = r.masterId.holdsLongInteger := by
  rw [Value.holdsLongInteger_object]
  cases hcountry : r.country <;> simp [Record.toFields, hcountry, Value.holdsLongInteger]

namespace Intake

/-- A row in which every integer can be written. -/
def Row.IsWritable : Row → Prop
  | .raw v => v.holdsLongInteger = false
  | .built r => r.masterId.holdsLongInteger = false

theorem isWritable_of_readRow {index : Nat} {row : Row} {today : Date} {r : Record Float}
    (hrow : row.IsWritable) (h : readRow index row today = .ok r) :
    r.masterId.holdsLongInteger = false := by
  unfold readRow at h
  split at h
  · cases h
    exact hrow
  · rename_i fields
    have hfields : ∀ f ∈ fields, f.2.holdsLongInteger = false := by
      intro f hf
      have hshort : (Value.object fields).holdsLongInteger = false := hrow
      rw [Value.holdsLongInteger_object, List.any_eq_false] at hshort
      simpa using hshort f hf
    rw [← (readFields_eq_ok_iff.mp h).masterId]
    exact of_fieldOf (P := fun v : Value => v.holdsLongInteger = false)
      (forall_canonical (P := fun v : Value => v.holdsLongInteger = false) hfields) rfl .masterId
  · cases h

/-- Rows and key figures that JSON texts say, no more rows than memory can hold. -/
structure FromText (rows : List Row) (metrics : Value) : Prop where
  ofRow : ∀ row ∈ rows, ∃ text v, row = .raw v ∧ Json.read? text = some v
  ofMetrics : ∃ text, Json.read? text = some metrics
  size : rows.length < 0x8000000000000000

end Intake

namespace Metrics

theorem isWritable_of_readCount {v : Value} {n : Int} (hv : v.holdsLongInteger = false)
    (h : readCount v = .ok n) : Number.isWritable n = true := by
  unfold readCount at h
  split at h
  · cases h
    split_ifs <;> exact Number.isWritable_of_lt_word (by decide)
  · cases h
    rwa [Number.isWritable, Bool.not_eq_true']
  · split at h
    · cases h
      exact Number.isWritable_integerPart ‹_›
    · cases h
  · split at h
    · cases h
      exact Number.isWritable_of_readInt ‹_›
    · cases h
    · cases h
  · cases h

theorem short_pick {fields : Entries Value} (h : ∀ f ∈ fields, f.2.holdsLongInteger = false)
    (name other : String) : (pick fields name other).holdsLongInteger = false := by
  have hfield : ∀ name v, Value.field? name fields = some v → v.holdsLongInteger = false := by
    intro name v hv
    obtain ⟨f, hf, rfl⟩ := Option.map_eq_some_iff.mp hv
    exact h f (List.mem_reverse.mp (List.mem_of_find?_eq_some hf))
  have hzero : (Value.int 0).holdsLongInteger = false := by
    rw [Number.holdsLongInteger_int, Number.isWritable_of_lt_word (by decide), Bool.not_true]
  unfold pick
  split
  · exact hzero
  · exact hzero
  · rename_i v _ hv
    rcases Option.or_eq_some_iff.mp hv with hfirst | ⟨-, hsecond⟩
    · exact hfield name v hfirst
    · exact hfield other v hsecond

/-- Key figures that are given can be written if the object that gives them can. -/
theorem isWritable_of_ofValue {v : Value} {m : Metrics Float} (hv : v.holdsLongInteger = false)
    (h : ofValue v = .ok m) :
    Number.isWritable m.totalOrders = true ∧ Number.isWritable m.uniqueCustomers = true := by
  unfold ofValue at h
  split at h
  · rename_i fields
    rw [Value.holdsLongInteger_object, List.any_eq_false] at hv
    have hpick (name other : String) : (pick fields name other).holdsLongInteger = false :=
      short_pick (fun f hf => by simpa using hv f hf) name other
    obtain ⟨_, -, h⟩ := bind_eq_ok.mp h
    obtain ⟨orders, horders, h⟩ := bind_eq_ok.mp h
    obtain ⟨_, -, h⟩ := bind_eq_ok.mp h
    obtain ⟨customers, hcustomers, h⟩ := bind_eq_ok.mp h
    obtain ⟨_, -, h⟩ := bind_eq_ok.mp h
    cases h
    exact ⟨isWritable_of_readCount (hpick _ _) horders,
      isWritable_of_readCount (hpick _ _) hcustomers⟩
  · cases h

end Metrics

namespace Dataset

/-- A ledger with ids and counts that can be written. -/
structure IsWritable (d : Dataset Float) : Prop where
  ids : ∀ r ∈ d.records, r.masterId.holdsLongInteger = false
  orders : Number.isWritable d.metrics.totalOrders = true
  customers : Number.isWritable d.metrics.uniqueCustomers = true

theorem isWritable_of_ofRecords {records : List (Record Float)} {given : Option (Metrics Float)}
    {d : Dataset Float} (hids : ∀ r ∈ records, r.masterId.holdsLongInteger = false)
    (hsize : records.length < 0x8000000000000000)
    (hgiven : ∀ m, given = some m →
      Number.isWritable m.totalOrders = true ∧ Number.isWritable m.uniqueCustomers = true)
    (h : ofRecords records given = .ok d) : d.IsWritable := by
  cases given with
  | none =>
    obtain ⟨figures, hfigures, h⟩ := bind_eq_ok.mp h
    obtain ⟨-, horders, hcustomers⟩ := counts_of_metrics hfigures
    cases h
    exact ⟨hids, Number.isWritable_of_lt_word (Nat.lt_of_le_of_lt horders hsize),
      Number.isWritable_of_lt_word (Nat.lt_of_le_of_lt hcustomers hsize)⟩
  | some m =>
    cases h
    exact ⟨hids, (hgiven m rfl).1, (hgiven m rfl).2⟩

/-- A ledger of rows and key figures that can be written can be written itself. -/
theorem isWritable_of_ofRows {rows : List Intake.Row} {metrics : Value} {today : Date}
    {d : Dataset Float} (hrows : ∀ row ∈ rows, row.IsWritable)
    (hmetrics : metrics.holdsLongInteger = false) (hlength : rows.length < 0x8000000000000000)
    (h : ofRows rows metrics today = .ok d) : d.IsWritable := by
  have hload : ∀ given : Option (Metrics Float), (∀ m, given = some m →
      Number.isWritable m.totalOrders = true ∧ Number.isWritable m.uniqueCustomers = true) →
      (do ofRecords (← Intake.readRows rows today) given) = .ok d → d.IsWritable := by
    intro given hgiven h
    obtain ⟨records, hrecords, h⟩ := bind_eq_ok.mp h
    refine isWritable_of_ofRecords (Intake.forall_of_readRowsFrom
      (fun row hrow _ _ => Intake.isWritable_of_readRow (hrows row hrow)) hrecords) ?_ hgiven h
    rwa [Intake.length_of_readRowsFrom hrecords]
  unfold ofRows at h
  split at h
  · exact hload none nofun h
  · cases hread : Metrics.ofValue metrics with
    | error f =>
      rw [hread] at h
      cases h
    | ok m =>
      rw [hread] at h
      refine hload (some m) ?_ h
      rintro _ ⟨⟩
      exact Metrics.isWritable_of_ofValue hmetrics hread

/-- A ledger that is loaded from JSON texts can be written. -/
theorem isWritable_of_fromText {rows : List Intake.Row} {metrics : Value} {today : Date}
    {d : Dataset Float} (hread : Intake.FromText rows metrics)
    (h : ofRows rows metrics today = .ok d) : d.IsWritable := by
  obtain ⟨text, hmetrics⟩ := hread.ofMetrics
  refine isWritable_of_ofRows ?_ (Json.short_of_read? hmetrics) hread.size h
  intro row hrow
  obtain ⟨text, v, rfl, hv⟩ := hread.ofRow row hrow
  exact Json.short_of_read? hv

end Dataset

end SalesDesk
