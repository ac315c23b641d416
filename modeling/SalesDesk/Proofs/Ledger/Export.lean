import SalesDesk.Proofs.Calendar.Layout
import SalesDesk.Proofs.Ledger.Refusals
import SalesDesk.Proofs.Text.Stripped

/-!
A ledger written out as rows and read in again. What the reading of a row leaves in a record is read
as itself, so that the rows of a ledger say its records once more.
-/
namespace SalesDesk

open Intake

namespace Intake

section
variable {row : Entries Value}

theorem merge_of_not_mem {found : Entries Value} {name : String} (h : name ∉ found.map (·.1))
    (v : Value) : merge found name v = found ++ [(name, v)] := by
  rw [merge, Entries.lookup_eq_none_of_not_mem h, Entries.put_of_not_mem h]
  rfl

/-- A row that has each field once, under its own name, stays as it is. -/
theorem canonical_eq_self (hname : ∀ f ∈ row, fieldName f.1 = f.1)
    (hnodup : (row.map (·.1)).Nodup) : canonical row = row := by
  -- the fields before these are there already
  have hfold : ∀ before : Entries Value, ((before ++ row).map (·.1)).Nodup →
      row.foldl (fun found f => merge found (fieldName f.1) f.2) before = before ++ row := by
    clear hnodup
    induction row with
    | nil => simp
    | cons f rest ih =>
      intro before hnodup
      obtain ⟨hf, hrest⟩ := List.forall_mem_cons.mp hname
      have hnew : f.1 ∉ before.map (·.1) := by
        rw [List.map_append, List.map_cons] at hnodup
        exact fun hmem => (List.nodup_append.mp hnodup).2.2 _ hmem _ List.mem_cons_self rfl
      rw [List.foldl_cons, hf, merge_of_not_mem hnew, ih hrest, List.append_assoc,
        List.singleton_append]
      simpa using hnodup
  exact hfold [] hnodup

end

/-- The fields of a record stand under their own names, each of them once. -/
theorem canonical_toFields (r : Record Float) : canonical r.toFields = r.toFields := by
  have hnames : r.toFields.map (·.1) = Field.all.map Field.name := rfl
  apply canonical_eq_self
  · have hown : ∀ name ∈ Field.all.map Field.name, fieldName name = name := by decide
    intro f hf
    exact hown f.1 (hnames ▸ List.mem_map_of_mem hf)
  · rw [hnames]
    decide

section
variable {v : Value} {s : String}

theorem eq_of_readText (h : readText v = .ok s) : s = Text.strip v.shown := by
  exact (Value.written_eq_ok_iff.mp h).2.symm

theorem strip_of_readText (h : readText v = .ok s) : Text.strip s = s := by
  rw [eq_of_readText h, Text.strip_strip]

theorem strip_of_readName (h : readName v = .ok s) : Text.strip s = s := by
  unfold readName at h
  split at h
  · exact strip_of_readText h
  · cases h
    rfl

theorem of_readCountry (h : readCountry v = .ok (some s)) :
    v.isAbsent = false ∧ readText v = .ok s := by
  unfold readCountry at h
  split at h
  · cases h
  · rename_i hgiven
    cases hread : readText v with
    | error f =>
      rw [hread] at h
      cases h
    | ok t =>
      rw [hread] at h
      cases h
      exact ⟨by simpa using hgiven, rfl⟩

/-- Is it a text of blanks only? -/
def IsBlank (v : Value) : Prop := ∃ s, v = .text s ∧ s ≠ "" ∧ Text.isBlankText s = true

theorem ne_empty_of_readCountry (hblank : ¬IsBlank v) (h : readCountry v = .ok (some s)) :
    s ≠ "" := by
  obtain ⟨hgiven, hread⟩ := of_readCountry h
  rintro rfl
  have hshown := Text.isBlankText_of_strip (eq_of_readText hread).symm
  cases htext : v with
  | text t =>
    subst htext
    exact hblank ⟨t, rfl, by simpa [Value.isAbsent] using hgiven, hshown⟩
  | _ =>
    rw [Value.isBlankText_shown (by simp [htext])] at hshown
    cases hshown

/-! A text that is stripped already is read as it is. -/

theorem readText_text (h : Text.strip s = s) : readText (.text s) = .ok s := by
  rw [readText, Value.shown, h]
  rfl

theorem readName_text (h : Text.strip s = s) : readName (.text s) = .ok s := by
  unfold readName
  split
  · exact readText_text h
  · rename_i hempty
    have hnil : s = "" := by simpa [Value.holdsSomething] using hempty
    rw [hnil]

theorem isAbsent_text (h : s ≠ "") : (Value.text s).isAbsent = false := by
  simpa [Value.isAbsent] using h

theorem readCountry_text {country : Option String}
    (h : ∀ s, country = some s → s ≠ "" ∧ Text.strip s = s) :
    readCountry ((country.map Value.text).getD .null) = .ok country := by
  cases country with
  | none => rfl
  | some s =>
    obtain ⟨hne, hstrip⟩ := h s rfl
    rw [Option.map_some, Option.getD_some, readCountry, isAbsent_text hne, readText_text hstrip]
    rfl

end

theorem missing_eq_nil_iff {row : Entries Value} :
    missing row = [] ↔ ∀ field ∈ required, (fieldOf row field).isAbsent = false := by
  rw [missing, List.map_eq_nil_iff, List.filter_eq_nil_iff]
  simp only [Bool.not_eq_true]

theorem says_toFields {index index' : Nat} {row : Entries Value} {today today' : Date}
    {r : Record Float} (h : Says index row today r) (hcustomer : r.customer ≠ "")
    (hcountry : ¬IsBlank (fieldOf row .country)) (hdate : (fieldOf row .date).OnCalendar) :
    Says index' r.toFields today' r where
  present := by
    have hid := missing_eq_nil_iff.mp h.present .masterId (by decide)
    have hday : r.date.iso ≠ "" := by
      intro hempty
      have hlist := congrArg String.toList hempty
      simp [Date.iso] at hlist
    rw [missing_eq_nil_iff]
    simp only [required, List.forall_mem_cons]
    refine ⟨isAbsent_text hcustomer, rfl, rfl, ?_, isAbsent_text hday, by simp⟩
    rwa [h.masterId] at hid
  named column := by
    have hstrip := strip_of_readName (h.named column)
    cases column <;> exact readName_text hstrip
  amount := rfl
  quantity := rfl
  masterId := rfl
  date := by
    change readDay index' (.text r.date.iso) today' = .ok r.date
    rw [readDay, DayReading.ofValue, DayReading.ofText_iso (onCalendar_of_readDay hdate h.date)]
  isSale := rfl
  country := by
    apply readCountry_text
    intro s hs
    have hread : readCountry (fieldOf row .country) = .ok (some s) := hs ▸ h.country
    exact ⟨ne_empty_of_readCountry hcountry hread, strip_of_readText (of_readCountry hread).2⟩

end Intake

theorem Dataset.eq_of_ofRows {rows : List Row} {metrics : Value} {today : Date}
    {d : Dataset Float} (h : Dataset.ofRows rows metrics today = .ok d) :
    readRows rows today = .ok d.records ∧ d.table = tableOf d.records ∧
      d.vocabulary = Vocabulary.ofRecords d.records := by
  have hgiven : ∃ given,
      (readRows rows today >>= fun records => ofRecords records given) = .ok d := by
    unfold Dataset.ofRows at h
    simp only at h
    split at h
    · exact ⟨none, h⟩
    · obtain ⟨given, -, h⟩ := bind_eq_ok.mp h
      exact ⟨given, h⟩
  obtain ⟨given, h⟩ := hgiven
  obtain ⟨records, hrecords, h⟩ := bind_eq_ok.mp h
  cases given with
  | some figures =>
    cases h
    exact ⟨hrecords, rfl, rfl⟩
  | none =>
    obtain ⟨figures, -, h⟩ := bind_eq_ok.mp h
    cases h
    exact ⟨hrecords, rfl, rfl⟩

/-- A ledger that was made from rows is written out and read in as the same one: the records in
order, their table, the names and the key figures. Its customers need names, and the rows no
countries of blanks, as neither is left after stripping; a row that holds a day itself holds one of
the calendar. The ledger may be read in again on any other day. -/
theorem ofRows_toFields {rows : List (Entries Value)} {metrics : Value} {today : Date}
    {d : Dataset Float} (hd : Dataset.ofRows (objectRows rows) metrics today = .ok d)
    (hcustomer : ∀ r ∈ d.records, r.customer ≠ "")
    (hcountry : ∀ fields ∈ rows, ¬IsBlank (fieldOf (canonical fields) .country))
    (hdates : ∀ fields ∈ rows, (fieldOf (canonical fields) .date).OnCalendar) (later : Date) :
    Dataset.ofRows (objectRows (d.records.map Record.toFields)) (.object d.metrics.toFields)
      later = .ok d := by
  obtain ⟨hrecords, htable, hvocabulary⟩ := Dataset.eq_of_ofRows hd
  have hagain : readRows (objectRows (d.records.map Record.toFields)) later = .ok d.records := by
    rw [readRows_objectRows_eq_ok_iff, List.forall₂_iff_get]
    refine ⟨by simp, fun i hi hr => ?_⟩
    obtain ⟨fields, hfields, hrow⟩ := exists_row_of_readRows hrecords hr
    simp only [List.get_eq_getElem, List.getElem_zipIdx, List.getElem_map, canonical_toFields]
    exact says_toFields hrow (hcustomer _ (List.getElem_mem _)) (hcountry fields hfields)
      (hdates fields hfields)
  have hfigures : Metrics.ofValue (.object d.metrics.toFields) = .ok d.metrics := rfl
  calc Dataset.ofRows (objectRows (d.records.map Record.toFields)) (.object d.metrics.toFields)
        later
      = Dataset.ofRecords d.records (some d.metrics) := by
        unfold Dataset.ofRows
        simp only [hfigures, hagain]
        rfl
    _ = .ok d := by
        rw [Dataset.ofRecords, ← htable, ← hvocabulary]
        rfl

/-- A sale with other spellings, blanks around its names and a day in another order. -/
def looseSale : Entries Value := [
  ("customer", .text " Acme "), ("item", .text "Steel"), ("amount", .text "1,200.50"),
  ("quantity", .int 2), ("masterid", .text "m1"), ("date", .text "2 Apr 2024"),
  ("issales", .text "yes"), ("country", .text " IN ")]

theorem canonical_looseSale : canonical looseSale = [
    ("customer", .text " Acme "), ("item", .text "Steel"), ("amount", .text "1,200.50"),
    ("quantity", .int 2), ("master_id", .text "m1"), ("transaction_date", .text "2 Apr 2024"),
    ("is_sale", .text "yes"), ("country", .text " IN ")] := by
  with_unfolding_all rfl

theorem ofRows_toFields_looseSale : ∃ d,
    Dataset.ofRows (objectRows [looseSale]) .null .standIn = .ok d ∧
    (∀ r ∈ d.records, r.customer ≠ "") ∧
    (∀ fields ∈ [looseSale], ¬IsBlank (fieldOf (canonical fields) .country)) ∧
    (∀ fields ∈ [looseSale], (fieldOf (canonical fields) .date).OnCalendar) ∧
    Dataset.ofRows (objectRows (d.records.map Record.toFields)) (.object d.metrics.toFields)
      .standIn = .ok d := by
  have hseen : (Dataset.ofRows (objectRows [looseSale]) .null .standIn).toOption.any
      (fun d => d.records.all (·.customer != "")) = true := by decide +kernel
  obtain ⟨d, hd, hall⟩ := exists_of_toOption_any hseen
  have hcustomer : ∀ r ∈ d.records, r.customer ≠ "" := by simpa using hall
  have hcountry : ∀ fields ∈ [looseSale], ¬IsBlank (fieldOf (canonical fields) .country) := by
    have hvalue : fieldOf (canonical looseSale) .country = .text " IN " := by
      rw [canonical_looseSale]
      rfl
    rw [List.forall_mem_singleton, hvalue]
    rintro ⟨s, hs, -, hblank⟩
    cases hs
    exact absurd hblank (by decide)
  have hdates : ∀ fields ∈ [looseSale], (fieldOf (canonical fields) .date).OnCalendar := by
    have hvalue : fieldOf (canonical looseSale) .date = .text "2 Apr 2024" := by
      rw [canonical_looseSale]
      rfl
    rw [List.forall_mem_singleton, hvalue]
    trivial
  exact ⟨d, hd, hcustomer, hcountry, hdates,
    ofRows_toFields hd hcustomer hcountry hdates .standIn⟩

end SalesDesk
