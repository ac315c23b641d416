import SalesDesk.Ledger.Intake
import SalesDesk.Proofs.Value.Written

/-!
What it takes for a raw row to be read as a record, and the faults that reading may end in. Each row
stands for one record, and the first row that cannot be read decides how the reading of all fails.
-/
namespace SalesDesk.Intake

theorem refuse_ne_ok {β : Type} (index : Nat) (problem : Value → RowProblem) (v : Value) (b : β) :
    refuse index problem v ≠ .ok b := by
  intro h
  obtain ⟨_, -, h⟩ := bind_eq_ok.mp h
  cases h

section
variable {index : Nat} {row : Entries Value} {today : Date} {r : Record Float}

/-- The fields of a row, read one by one on some day, say the record. -/
structure Says (index : Nat) (row : Entries Value) (today : Date) (r : Record Float) : Prop where
  present : missing row = []
  named : ∀ column, readName (fieldOf row (.named column)) = .ok (r.named column)
  amount : readAmount index Field.amount.name (fieldOf row .amount) = .ok r.amount
  quantity : readAmount index Field.quantity.name (fieldOf row .quantity) = .ok r.quantity
  masterId : fieldOf row .masterId = r.masterId
  date : readDay index (fieldOf row .date) today = .ok r.date
  isSale : readFlag ((row.lookup Field.isSale.name).getD (.bool true)) = r.isSale
  country : readCountry (fieldOf row .country) = .ok r.country

theorem readFields_eq_ok_iff :
    readFields index row today = .ok r ↔ Says index row today r := by
  constructor
  · intro h
    unfold readFields at h
    simp only at h
    split at h
    · cases h
    · rename_i hpresent
      obtain ⟨customer, hcustomer, h⟩ := bind_eq_ok.mp h
      obtain ⟨item, hitem, h⟩ := bind_eq_ok.mp h
      obtain ⟨category, hcategory, h⟩ := bind_eq_ok.mp h
      obtain ⟨region, hregion, h⟩ := bind_eq_ok.mp h
      obtain ⟨amount, hamount, h⟩ := bind_eq_ok.mp h
      obtain ⟨quantity, hquantity, h⟩ := bind_eq_ok.mp h
      obtain ⟨date, hdate, h⟩ := bind_eq_ok.mp h
      obtain ⟨country, hcountry, h⟩ := bind_eq_ok.mp h
      cases h
      refine ⟨by simpa using hpresent, ?_, hamount, hquantity, rfl, hdate, rfl, hcountry⟩
      rintro (_ | _ | _ | _)
      · exact hcustomer
      · exact hitem
      · exact hcategory
      · exact hregion
  · rintro ⟨hpresent, hnamed, hamount, hquantity, hid, hdate, hsale, hcountry⟩
    simp only [readFields, hpresent, hnamed, hamount, hquantity, hid, hdate, hsale, hcountry,
      List.isEmpty_nil, ok_bind]
    rfl

end

section
variable {index : Nat} {row : Entries Value} {today : Date} {f : Fault}

/-- What breaks the reading of a row although the row is not told to be at fault: an integer that is
too long to be written out, an amount beyond the doubles, several days in the place of one, and a
day before the calendar. -/
inductive Slip (row : Entries Value) (today : Date) : Fault → Prop
  | longInteger (field : Field) (h : (fieldOf row field).holdsLongInteger = true) :
    Slip row today (.tooManyDigits none)
  | largeAmount (field : Field) (n : Int) (h : fieldOf row field = .int n)
    (hlarge : Number.ofInt? n = none) : Slip row today .tooLarge
  | days (single : Bool) (h : DayReading.ofValue (fieldOf row .date) today = .inList single) :
    Slip row today (.dateList single)
  | early (h : DayReading.ofValue (fieldOf row .date) today = .beyondCalendar) :
    Slip row today .beyondCalendar

theorem slip_of_readText {field : Field} (h : readText (fieldOf row field) = .error f) :
    Slip row today f := by
  obtain ⟨hlong, rfl⟩ := Value.written_eq_error_iff.mp h
  exact .longInteger field hlong

theorem slip_of_readName {field : Field} (h : readName (fieldOf row field) = .error f) :
    Slip row today f := by
  unfold readName at h
  split at h
  · exact slip_of_readText h
  · cases h

theorem slip_of_readCountry {field : Field} (h : readCountry (fieldOf row field) = .error f) :
    Slip row today f := by
  unfold readCountry at h
  split at h
  · cases h
  · cases hread : readText (fieldOf row field) with
    | error e =>
      rw [hread] at h
      cases h
      exact slip_of_readText hread
    | ok s =>
      rw [hread] at h
      cases h

def Refuses (index : Nat) (row : Entries Value) (today : Date) (f : Fault) : Prop :=
  (∃ problem, f = .badRow index problem) ∨ Slip row today f

theorem refuses_of_refuse {β : Type} {problem : Value → RowProblem} {field : Field}
    (h : (refuse index problem (fieldOf row field) : Except Fault β) = .error f) :
    Refuses index row today f := by
  rcases bind_eq_error.mp h with h | ⟨_, -, h⟩
  · obtain ⟨hlong, rfl⟩ := Value.written_eq_error_iff.mp h
    exact .inr (.longInteger field hlong)
  · cases h
    exact .inl ⟨_, rfl⟩

theorem refuses_of_readAmount {field : Field} {name : String}
    (h : readAmount index name (fieldOf row field) = .error f) : Refuses index row today f := by
  unfold readAmount at h
  split at h
  · cases h
    exact .inl ⟨_, rfl⟩
  · cases h
  · rename_i n hn
    split at h
    · cases h
    · cases h
      exact .inr (.largeAmount field n hn ‹_›)
  · split at h
    · cases h
    · exact refuses_of_refuse h

theorem refuses_of_readDay (h : readDay index (fieldOf row .date) today = .error f) :
    Refuses index row today f := by
  unfold readDay at h
  split at h
  · cases h
  · cases h
    exact .inl ⟨_, rfl⟩
  · exact refuses_of_refuse h
  · cases h
    exact .inr (.days _ ‹_›)
  · cases h
    exact .inr (.early ‹_›)

theorem refuses_of_readFields (h : readFields index row today = .error f) :
    Refuses index row today f := by
  unfold readFields at h
  simp only at h
  split at h
  · cases h
    exact .inl ⟨_, rfl⟩
  · rcases bind_eq_error.mp h with h | ⟨_, -, h⟩
    · exact .inr (slip_of_readName h)
    rcases bind_eq_error.mp h with h | ⟨_, -, h⟩
    · exact .inr (slip_of_readName h)
    rcases bind_eq_error.mp h with h | ⟨_, -, h⟩
    · exact .inr (slip_of_readName h)
    rcases bind_eq_error.mp h with h | ⟨_, -, h⟩
    · exact .inr (slip_of_readName h)
    rcases bind_eq_error.mp h with h | ⟨_, -, h⟩
    · exact refuses_of_readAmount h
    rcases bind_eq_error.mp h with h | ⟨_, -, h⟩
    · exact refuses_of_readAmount h
    rcases bind_eq_error.mp h with h | ⟨_, -, h⟩
    · exact refuses_of_readDay h
    rcases bind_eq_error.mp h with h | ⟨_, -, h⟩
    · exact .inr (slip_of_readCountry h)
    · cases h

end

/-- Rows are read one after the other, each with its place. -/
theorem readRowsFrom_eq (index : Nat) (rows : List Row) (today : Date) :
    readRowsFrom index rows today =
      (rows.zipIdx index).mapM fun p => readRow p.2 p.1 today := by
  induction rows generalizing index with
  | nil => rfl
  | cons row rest ih =>
    rw [readRowsFrom, List.zipIdx_cons, List.mapM_cons, ih]

end SalesDesk.Intake
