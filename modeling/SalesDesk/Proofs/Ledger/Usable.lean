import SalesDesk.Proofs.Ledger.Export

/-!
Which rows make records of use, with a customer that has a name and with finite figures. Reading
asks for less: what a row must hold is looked at before it is stripped, and no size is asked for.
-/
namespace SalesDesk

/-- The customer has a name, and the amount and the quantity are finite. -/
structure Record.IsUsable (r : Record Float) : Prop where
  customer : r.customer ≠ ""
  amount : r.amount.isFinite = true
  quantity : r.quantity.isFinite = true

instance (r : Record Float) : Decidable r.IsUsable :=
  decidable_of_iff (r.customer ≠ "" ∧ r.amount.isFinite = true ∧ r.quantity.isFinite = true)
    ⟨fun h => ⟨h.1, h.2.1, h.2.2⟩, fun h => ⟨h.customer, h.amount, h.quantity⟩⟩

namespace Intake

section
variable {v : Value}

/-- The value holds something, and not blanks alone. -/
def NamesSomeone (v : Value) : Prop := v.holdsSomething = true ∧ ¬IsBlank v

def amountText (v : Value) : String :=
  Text.strip (String.ofList (v.shown.toList.filter (· != ',')))

/-- The value says a finite figure. Every integer that a double reaches does, and so does a text
that is neither an infinity, nor beyond the doubles, nor the word for what is no number. -/
def SaysFinite : Value → Prop
  | .bool _ => False
  | .number x => x.isFinite = true
  | .int _ => True
  | v => ∃ x, Number.readFloat? (amountText v) = some x ∧ x.isFinite = true

theorem names_iff_of_readName {s : String} (h : readName v = .ok s) : s ≠ "" ↔ NamesSomeone v := by
  unfold readName at h
  split at h
  · rename_i hholds
    have hs := eq_of_readText h
    constructor
    · intro hne
      refine ⟨hholds, ?_⟩
      rintro ⟨t, rfl, -, hblank⟩
      have hnil : Text.stripChars t.toList = [] := by
        rw [Text.stripChars_eq, List.dropWhile_eq_nil_iff.mpr (List.all_eq_true.mp hblank)]
        rfl
      exact hne (by rw [hs, Value.shown, Text.strip, hnil])
    · rintro ⟨-, hblank⟩ rfl
      have hshown := Text.isBlankText_of_strip hs.symm
      cases htext : v with
      | text t =>
        subst htext
        exact hblank ⟨t, rfl, by simpa [Value.holdsSomething] using hholds, hshown⟩
      | _ =>
        rw [Value.isBlankText_shown (by simp [htext])] at hshown
        cases hshown
  · rename_i hnothing
    cases h
    constructor
    · intro hne
      exact absurd rfl hne
    · rintro ⟨hholds, -⟩
      exact absurd hholds hnothing

theorem saysFinite_iff_of_readAmount {index : Nat} {field : String} {x : Float}
    (h : readAmount index field v = .ok x) : x.isFinite = true ↔ SaysFinite v := by
  unfold readAmount at h
  split at h
  · cases h
  · cases h
    rfl
  · rename_i n
    split at h
    · rename_i y hy
      cases h
      have hfinite : x.isFinite = true := by
        unfold Number.ofInt? at hy
        simp only at hy
        split at hy
        · cases hy
          assumption
        · cases hy
      exact iff_of_true hfinite trivial
    · cases h
  · rename_i hbool hnumber hint
    split at h
    · rename_i y hy
      cases h
      have htext : SaysFinite v ↔
          ∃ x, Number.readFloat? (amountText v) = some x ∧ x.isFinite = true := by
        cases v with
        | bool b => exact absurd rfl (hbool b)
        | number y => exact absurd rfl (hnumber y)
        | int n => exact absurd rfl (hint n)
        | _ => rfl
      rw [htext, amountText, hy]
      simp
    · exact absurd h (refuse_ne_ok _ _ _ _)

/-- A record is of use exactly if its row has a customer that names somebody and finite figures. -/
theorem isUsable_iff_of_says {index : Nat} {row : Entries Value} {today : Date}
    {r : Record Float} (h : Says index row today r) :
    r.IsUsable ↔ NamesSomeone (fieldOf row (.named .customer)) ∧
      SaysFinite (fieldOf row .amount) ∧ SaysFinite (fieldOf row .quantity) := by
  have hcustomer : r.customer ≠ "" ↔ NamesSomeone (fieldOf row (.named .customer)) :=
    names_iff_of_readName (h.named .customer)
  rw [← hcustomer, ← saysFinite_iff_of_readAmount h.amount,
    ← saysFinite_iff_of_readAmount h.quantity]
  exact ⟨fun hr => ⟨hr.customer, hr.amount, hr.quantity⟩, fun ⟨hc, ha, hq⟩ => ⟨hc, ha, hq⟩⟩

end

theorem says_of_readRow {index : Nat} {v : Value} {today : Date} {r : Record Float}
    (h : readRow index (.raw v) today = .ok r) :
    ∃ fields, v = .object fields ∧ Says index (canonical fields) today r := by
  cases v with
  | object fields => exact ⟨fields, rfl, readFields_eq_ok_iff.mp h⟩
  | _ => cases h

end Intake

open Intake

/-- Rows that are accepted make one record each, in order, and a record is of use exactly if the
customer of its row names somebody and its amount and quantity say finite figures. -/
theorem isUsable_iff_of_readRows {rows : List Value} {today : Date}
    {records : List (Record Float)} (h : readRows (rows.map .raw) today = .ok records) :
    List.Forall₂ (fun row r => ∃ fields, row = .object fields ∧
      (r.IsUsable ↔ NamesSomeone (fieldOf (canonical fields) (.named .customer)) ∧
        SaysFinite (fieldOf (canonical fields) .amount) ∧
        SaysFinite (fieldOf (canonical fields) .quantity))) rows records := by
  rw [readRows, readRowsFrom_eq, List.zipIdx_map, List.mapM_map] at h
  have hread := mapM_eq_ok_iff.mp h
  rw [List.forall₂_iff_get] at hread ⊢
  obtain ⟨hlength, hrow⟩ := hread
  rw [List.length_zipIdx] at hlength
  refine ⟨hlength, fun i hi hr => ?_⟩
  have hsaid := hrow i (by rwa [List.length_zipIdx]) hr
  simp only [List.get_eq_getElem, List.getElem_zipIdx] at hsaid
  obtain ⟨fields, hfields, hsays⟩ := says_of_readRow hsaid
  exact ⟨fields, hfields, isUsable_iff_of_says hsays⟩

def bareSale (customer amount quantity : Value) : Value :=
  .object [("customer", customer), ("amount", amount), ("quantity", quantity),
    ("masterid", .text "m1"), ("date", .text "2024-04-02")]

/-- A sale with blanks around its customer and an amount with a comma. -/
def looseFigures : List Value := [bareSale (.text " Acme ") (.text "1,200.50") (.int 2)]

theorem isUsable_iff_of_readRows_acme : ∃ records,
    readRows (looseFigures.map .raw) .standIn = .ok records ∧
    List.Forall₂ (fun row r => ∃ fields, row = .object fields ∧
      (r.IsUsable ↔ NamesSomeone (fieldOf (canonical fields) (.named .customer)) ∧
        SaysFinite (fieldOf (canonical fields) .amount) ∧
        SaysFinite (fieldOf (canonical fields) .quantity))) looseFigures records ∧
    ∀ r ∈ records, r.IsUsable := by
  have hseen : (readRows (looseFigures.map .raw) .standIn).toOption.any
      (fun records => records.all (·.IsUsable)) = true := by decide +kernel
  obtain ⟨records, hread, hall⟩ := exists_of_toOption_any hseen
  exact ⟨records, hread, isUsable_iff_of_readRows hread, by simpa using hall⟩

/-- Sales with a customer of blanks, one that is false, an amount that is no number, a text for
none, an infinite amount, one beyond the doubles, and a quantity without end. -/
def uselessSales : List Value := [
  bareSale (.text " ") (.int 1) (.int 1), bareSale (.bool false) (.int 1) (.int 1),
  bareSale (.text "Acme") (.number Number.notANumber) (.int 1),
  bareSale (.text "Acme") (.text "nan") (.int 1),
  bareSale (.text "Acme") (.number Number.infinity) (.int 1),
  bareSale (.text "Acme") (.text "1e999") (.int 1),
  bareSale (.text "Acme") (.int 1) (.text "-inf")]

/-- They are all accepted, and not one of their records is of use. -/
theorem uselessSales_accepted : ∃ records, readRows (uselessSales.map .raw) .standIn = .ok records ∧
    records.length = 7 ∧ ∀ r ∈ records, ¬r.IsUsable := by
  have hseen : (readRows (uselessSales.map .raw) .standIn).toOption.any
      (fun records => records.length == 7 && records.all (¬·.IsUsable)) = true := by
    decide +kernel
  obtain ⟨records, hread, hall⟩ := exists_of_toOption_any hseen
  rw [Bool.and_eq_true] at hall
  exact ⟨records, hread, eq_of_beq hall.1, by simpa using hall.2⟩

end SalesDesk
