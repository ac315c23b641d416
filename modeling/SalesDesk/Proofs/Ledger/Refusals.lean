import SalesDesk.Proofs.Ledger.Sound

/-!
How the making of a ledger from raw rows ends: with a record for each row, with a row that is told
to be at fault, or with one of a few faults that rows should not have, but can.
-/
namespace SalesDesk

open Intake

/-- Rows that are objects. -/
def objectRows (rows : List (Entries Value)) : List Row :=
  rows.map fun fields => .raw (.object fields)

theorem readRows_objectRows (rows : List (Entries Value)) (today : Date) :
    readRows (objectRows rows) today =
      rows.zipIdx.mapM fun p => readFields p.2 (canonical p.1) today := by
  rw [readRows, readRowsFrom_eq, objectRows, List.zipIdx_map, List.mapM_map]
  rfl

/-- Each row stands for one record, in order. -/
theorem readRows_objectRows_eq_ok_iff {rows : List (Entries Value)} {today : Date}
    {records : List (Record Float)} : readRows (objectRows rows) today = .ok records ↔
      List.Forall₂ (fun p r => Says p.2 (canonical p.1) today r) rows.zipIdx records := by
  simp only [readRows_objectRows, mapM_eq_ok_iff, readFields_eq_ok_iff]

/-- A record is what one of the rows says. -/
theorem exists_row_of_readRows {rows : List (Entries Value)} {today : Date}
    {records : List (Record Float)} (h : readRows (objectRows rows) today = .ok records) {i : Nat}
    (hi : i < records.length) : ∃ fields ∈ rows, Says i (canonical fields) today records[i] := by
  have hread := readRows_objectRows_eq_ok_iff.mp h
  have hrow := hread.get (by rwa [hread.length_eq]) hi
  simp only [List.get_eq_getElem, List.getElem_zipIdx, Nat.zero_add] at hrow
  exact ⟨_, List.getElem_mem _, hrow⟩

theorem refuses_of_readRows {rows : List (Entries Value)} {today : Date} {f : Fault}
    (h : readRows (objectRows rows) today = .error f) :
    ∃ i fields, rows[i]? = some fields ∧ Refuses i (canonical fields) today f := by
  rw [readRows_objectRows] at h
  obtain ⟨before, ⟨fields, i⟩, after, hrows, -, hfails⟩ := mapM_eq_error_iff.mp h
  have hmem : (fields, i) ∈ rows.zipIdx := by
    rw [hrows]
    exact List.mem_append_right _ List.mem_cons_self
  exact ⟨i, fields, List.mem_zipIdx_iff_getElem?.mp hmem, refuses_of_readFields hfails⟩

/-- Records that cannot be counted hold an id that is a list or an object. -/
theorem uncountable_of_metrics {records : List (Record Float)} {f : Fault}
    (h : Metrics.ofRecords records = .error f) :
    ∃ r ∈ records, r.masterId.isCountable = false ∧ f = .uncountable r.masterId.kindName := by
  unfold Metrics.ofRecords at h
  split at h
  · cases h
  · rcases bind_eq_error.mp h with h | ⟨_, -, h⟩
    · unfold distinctIds at h
      split at h
      · rename_i id hid
        cases h
        obtain ⟨r, hr, rfl⟩ := List.mem_map.mp (List.mem_of_find?_eq_some hid)
        exact ⟨r, hr, by simpa using List.find?_some hid, rfl⟩
      · cases h
    · cases h

/-- Raw rows make up a ledger of one record each, in order, or a row of them is told to be at fault.
Otherwise one of them has a slip, or an id that is a list or an object. -/
theorem ofRows_objectRows (rows : List (Entries Value)) (today : Date) :
    match Dataset.ofRows (objectRows rows) .null today with
    | .ok d =>
      List.Forall₂ (fun p r => Says p.2 (canonical p.1) today r) rows.zipIdx d.records
    | .error f =>
      (∃ i fields, rows[i]? = some fields ∧ ∃ problem, f = .badRow i problem) ∨
      (∃ fields ∈ rows, Slip (canonical fields) today f) ∨
      ∃ fields ∈ rows, (fieldOf (canonical fields) .masterId).isCountable = false ∧
        f = .uncountable (fieldOf (canonical fields) .masterId).kindName := by
  have hmade : Dataset.ofRows (objectRows rows) .null today =
      readRows (objectRows rows) today >>= fun records => Dataset.ofRecords records none := rfl
  rw [hmade]
  cases hread : readRows (objectRows rows) today with
  | error f =>
    obtain ⟨i, fields, hfields, hproblem | hslip⟩ := refuses_of_readRows hread
    · exact .inl ⟨i, fields, hfields, hproblem⟩
    · exact .inr (.inl ⟨fields, List.mem_of_getElem? hfields, hslip⟩)
  | ok records =>
    have hsays := readRows_objectRows_eq_ok_iff.mp hread
    rw [ok_bind]
    cases hmetrics : Metrics.ofRecords records with
    | ok m =>
      rw [Dataset.ofRecords, hmetrics]
      exact hsays
    | error f =>
      rw [Dataset.ofRecords, hmetrics]
      obtain ⟨r, hr, hid, rfl⟩ := uncountable_of_metrics hmetrics
      obtain ⟨i, hi, rfl⟩ := List.getElem_of_mem hr
      obtain ⟨fields, hfields, hrow⟩ := exists_row_of_readRows hread hi
      rw [← hrow.masterId] at hid ⊢
      exact .inr (.inr ⟨fields, hfields, hid, rfl⟩)

/-- A sale with one value that is its own. -/
def oddSale (field : String) (v : Value) : List (Entries Value) :=
  [Entries.put [("customer", .text "Acme"), ("amount", .int 1), ("quantity", .int 1),
    ("master_id", .text "m1"), ("date", .text "2024-04-02")] field v]

/-- Sales that cannot be read although no row is told to be at fault: an amount beyond the doubles,
an item that is too long to be written, an id that is a list, a list of one day, and a day of the
year 0. -/
theorem oddSales_fail :
    Dataset.ofRows (objectRows (oddSale "amount" (.int (Nat.pow 10 400)))) .null .standIn =
      .error .tooLarge ∧
    Dataset.ofRows (objectRows (oddSale "item" (.int (Nat.pow 10 4300)))) .null .standIn =
      .error (.tooManyDigits none) ∧
    Dataset.ofRows (objectRows (oddSale "master_id" (.list [.int 1]))) .null .standIn =
      .error (.uncountable "list") ∧
    Dataset.ofRows (objectRows (oddSale "date" (.list [.text "2024-04-02"]))) .null .standIn =
      .error (.dateList true) ∧
    Dataset.ofRows (objectRows (oddSale "date" (.text "0000-04-02"))) .null .standIn =
      .error .beyondCalendar := by
  -- the long integers are left to the kernel
  have hlarge : ∀ f : Fault, (f matches .tooLarge) = true → f = .tooLarge := by
    intro f hf
    split at hf
    · rfl
    · cases hf
  have hlong : ∀ f : Fault, (f matches .tooManyDigits none) = true → f = .tooManyDigits none := by
    intro f hf
    split at hf
    · rfl
    · cases hf
  refine ⟨eq_error_of_seen _ hlarge (by decide +kernel),
    eq_error_of_seen _ hlong (by decide +kernel), by with_unfolding_all rfl,
    by with_unfolding_all rfl, by with_unfolding_all rfl⟩

end SalesDesk
