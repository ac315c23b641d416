import SalesDesk.Proofs.Outcome
import SalesDesk.Value.Written

/-! What can be written: values whose integers have few enough digits, and what is made of them. -/
namespace SalesDesk

variable {β : Type}

namespace Value

variable {v : Value} {made b : β} {P : β → Prop}

theorem written_of_short (h : v.holdsLongInteger = false) (made : β) :
    v.written made = .ok made := by
  rw [written, h]
  rfl

theorem written_of_long (h : v.holdsLongInteger = true) (made : β) :
    v.written made = .error (.tooManyDigits none) := by
  rw [written, h]
  rfl

theorem written_eq_ok_iff : v.written made = .ok b ↔ v.holdsLongInteger = false ∧ made = b := by
  cases h : v.holdsLongInteger with
  | true => simp [written_of_long h]
  | false => simp [written_of_short h]

theorem written_eq_error_iff {f : Fault} :
    v.written made = .error f ↔ v.holdsLongInteger = true ∧ f = .tooManyDigits none := by
  cases h : v.holdsLongInteger with
  | true => simp [written_of_long h, eq_comm]
  | false => simp [written_of_short h]

theorem givesOnly_written (h : P made) : GivesOnly (v.written made) P where
  of_ok _ hb := (written_eq_ok_iff.mp hb).2 ▸ h

theorem holdsLongInteger_list {items : List Value} :
    (Value.list items).holdsLongInteger = items.any holdsLongInteger := by
  rw [holdsLongInteger]
  induction items with
  | nil => rfl
  | cons v rest ih => rw [itemsHoldLong, List.any_cons, ih]

/-- What is made of several values, one after the other, is made of the list of them. -/
theorem written_bind {γ : Type} {rest : List Value} {f : β → Except Fault γ} {c : γ}
    (h : f made = (Value.list rest).written c) :
    v.written made >>= f = (Value.list (v :: rest)).written c := by
  cases hv : v.holdsLongInteger with
  | true =>
    have hlong : (Value.list (v :: rest)).holdsLongInteger = true := by
      rw [holdsLongInteger_list, List.any_cons, hv, Bool.true_or]
    rw [written_of_long hv, written_of_long hlong]
    rfl
  | false =>
    rw [written_of_short hv, ok_bind, h, written, written, holdsLongInteger_list,
      holdsLongInteger_list, List.any_cons, hv, Bool.false_or]

/-- An object can be written if the values of all its fields can. -/
theorem holdsLongInteger_object {fields : Entries Value} :
    (Value.object fields).holdsLongInteger = fields.any (·.2.holdsLongInteger) := by
  rw [holdsLongInteger]
  induction fields with
  | nil => rfl
  | cons f rest ih => rw [fieldsHoldLong, List.any_cons, ih]

end Value

namespace Number

variable {n : Int} {made b : β} {P : β → Prop}

theorem isWritable_iff : isWritable n = true ↔ n.natAbs < leastTooLong := by
  rw [isWritable, Value.holdsLongInteger]
  simp

theorem isWritable_eq_false_iff : isWritable n = false ↔ leastTooLong ≤ n.natAbs := by
  rw [← Bool.not_eq_true, isWritable_iff, Nat.not_lt]

theorem holdsLongInteger_int : (Value.int n).holdsLongInteger = !isWritable n := by
  rw [isWritable, Bool.not_not]

theorem written_of_isWritable (h : isWritable n = true) (made : β) : written n made = .ok made :=
  Value.written_of_short (by rw [holdsLongInteger_int, h]; rfl) made

theorem written_of_not_isWritable (h : isWritable n = false) (made : β) :
    written n made = .error (.tooManyDigits none) :=
  Value.written_of_long (by rw [holdsLongInteger_int, h]; rfl) made

theorem written_eq_ok_iff : written n made = .ok b ↔ isWritable n = true ∧ made = b := by
  rw [written, Value.written_eq_ok_iff, holdsLongInteger_int, Bool.not_eq_eq_eq_not, Bool.not_false]

theorem givesOnly_written (h : P made) : GivesOnly (written n made) P := Value.givesOnly_written h

/-- The largest number of digits is left unknown here, so that nothing computes its power of ten. -/
theorem pow_le_leastTooLong {digits : Nat} (h : digits ≤ maxIntegerDigits) :
    Nat.pow 10 digits ≤ leastTooLong := by
  unfold leastTooLong
  generalize maxIntegerDigits = k at h
  exact Nat.pow_le_pow_right (by decide) h

theorem isWritable_of_lt_word (h : n.natAbs < 0x8000000000000000) : isWritable n = true := by
  have hdigits : 19 ≤ maxIntegerDigits := by simp [maxIntegerDigits]
  have hpow : 0x8000000000000000 ≤ Nat.pow 10 19 := Nat.le_of_ble_eq_true rfl
  rw [isWritable_iff]
  exact Nat.lt_of_lt_of_le h (Nat.le_trans hpow (pow_le_leastTooLong hdigits))

theorem not_isWritable_leastTooLong : isWritable leastTooLong = false :=
  isWritable_eq_false_iff.mpr (Nat.le_refl _)

end Number

end SalesDesk
