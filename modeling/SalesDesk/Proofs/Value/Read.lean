import SalesDesk.Proofs.Number.Digits
import SalesDesk.Proofs.Value.Entries
import SalesDesk.Proofs.Value.Written
import SalesDesk.Value.Json
import Mathlib.Tactic.SplitIfs

/-!
What is read from a text can be written again. A number of too many digits is not read, and so no
list and no object of a JSON text holds one.
-/
namespace SalesDesk

namespace Number

theorem isWritable_of_digits {ds : List Char} (h : ∀ c ∈ ds, c.isDigit = true)
    (hlength : ds.length ≤ maxIntegerDigits) (negative : Bool) :
    isWritable (if negative then -(digitsToNat ds : Int) else digitsToNat ds) = true := by
  have hlt := Nat.lt_of_lt_of_le (digitsToNat_lt h) (pow_le_leastTooLong hlength)
  rw [isWritable_iff]
  split_ifs
  · rwa [Int.natAbs_neg, Int.natAbs_natCast]
  · rwa [Int.natAbs_natCast]

theorem isWritable_of_readInt {s : String} {n : Int} (h : readInt s = .value n) :
    isWritable n = true := by
  unfold readInt at h
  simp only at h
  split at h
  · cases h
  · rename_i ds _
    by_cases hempty : (ds.isEmpty || !ds.all (·.isDigit)) = true
    · rw [if_pos hempty] at h
      cases h
    rw [if_neg hempty] at h
    by_cases hlong : ds.length > maxIntegerDigits
    · rw [if_pos hlong] at h
      cases h
    rw [if_neg hlong] at h
    have hdigits : ∀ c ∈ ds, c.isDigit = true := by simp_all
    cases h
    exact isWritable_of_digits hdigits (Nat.le_of_not_lt hlong) _

end Number

namespace Json

variable {v : Value} {cs rest : List Char}

/-! The parts of a number. -/

theorem isDigit_of_wholeDigits? {ds : List Char} (h : wholeDigits? cs = some (ds, rest)) :
    ∀ c ∈ ds, c.isDigit = true := by
  unfold wholeDigits? at h
  split at h
  · cases h
    simp
  · simp only [Option.ite_none_left_eq_some] at h
    cases h.2
    exact List.all_eq_true.mp List.all_takeWhile

theorem short_of_readNumber? (h : readNumber? cs = some (v, rest)) :
    v.holdsLongInteger = false := by
  unfold readNumber? at h
  obtain ⟨⟨whole, afterWhole⟩, hwhole, h⟩ := Option.bind_eq_some_iff.mp h
  simp only at h
  split at h
  · split at h
    · cases h
    · rename_i hlength
      cases h
      rw [Number.holdsLongInteger_int, Bool.not_eq_false']
      exact Number.isWritable_of_digits (isDigit_of_wholeDigits? hwhole)
        (Nat.le_of_not_lt hlength) _
  · cases h
    simp [Value.holdsLongInteger]

theorem short_of_readWord? (h : readWord? cs = some (v, rest)) : v.holdsLongInteger = false := by
  have hall : ∀ e ∈ wordValues, e.2.holdsLongInteger = false := by
    unfold wordValues
    simp [Value.holdsLongInteger]
  obtain ⟨e, he, hread⟩ := List.exists_of_findSome?_eq_some h
  obtain ⟨-, hread⟩ := Option.ite_none_right_eq_some.mp hread
  cases hread
  exact hall e he

/-- Reading a value, the items of a list and the fields of an object go by one fuel, so that the
three are shown at once. -/
theorem short_of_read (fuel : Nat) :
    (∀ cs v rest, readValue? fuel cs = some (v, rest) → v.holdsLongInteger = false) ∧
    (∀ items cs v rest, items.any Value.holdsLongInteger = false →
      readItems? fuel items cs = some (v, rest) → v.holdsLongInteger = false) ∧
    ∀ fields cs v rest, (∀ f ∈ fields, f.2.holdsLongInteger = false) →
      readFields? fuel fields cs = some (v, rest) → v.holdsLongInteger = false := by
  induction fuel with
  | zero =>
    refine ⟨?_, ?_, ?_⟩
    · intro cs v rest h
      cases h
    · intro items cs v rest _ h
      cases h
    · intro fields cs v rest _ h
      cases h
  | succ fuel ih =>
    obtain ⟨hvalue, hitems, hfields⟩ := ih
    refine ⟨?_, ?_, ?_⟩
    · intro cs v rest h
      unfold readValue? at h
      split at h
      · obtain ⟨⟨s, after⟩, -, hs⟩ := Option.map_eq_some_iff.mp h
        cases hs
        simp [Value.holdsLongInteger]
      · split at h
        · cases h
          rw [Value.holdsLongInteger_list, List.any_nil]
        · exact hitems [] _ v rest rfl h
      · split at h
        · cases h
          rw [Value.holdsLongInteger_object, List.any_nil]
        · exact hfields [] _ v rest (List.forall_mem_nil _) h
      · rcases Option.or_eq_some_iff.mp h with hword | ⟨-, hnumber⟩
        · exact short_of_readWord? hword
        · exact short_of_readNumber? hnumber
    · intro items cs v rest hshort h
      unfold readItems? at h
      split at h
      · cases h
      · rename_i item after hitem
        have hcons : (item :: items).any Value.holdsLongInteger = false := by
          rw [List.any_cons, hvalue _ _ _ hitem, hshort, Bool.or_false]
        split at h
        · exact hitems _ _ v rest hcons h
        · cases h
          rw [Value.holdsLongInteger_list, List.any_reverse, hcons]
        · cases h
    · intro fields cs v rest hshort h
      unfold readFields? at h
      split at h
      · split at h
        · cases h
        · split at h
          · split at h
            · cases h
            · rename_i item _ hitem
              have hput (name : String) :
                  ∀ f ∈ fields.put name item, f.2.holdsLongInteger = false :=
                Entries.forall_put (P := fun w : Value => w.holdsLongInteger = false) hshort
                  (hvalue _ _ _ hitem)
              split at h
              · exact hfields _ _ v rest (hput _) h
              · cases h
                rw [Value.holdsLongInteger_object, List.any_eq_false]
                exact fun f hf => Bool.not_eq_true _ ▸ hput _ f hf
              · cases h
          · cases h
      · cases h

/-- No integer of too many digits is read from a text. -/
theorem short_of_read? {s : String} (h : read? s = some v) : v.holdsLongInteger = false := by
  unfold read? at h
  simp only at h
  split at h
  · split at h
    · cases h
      exact (short_of_read _).1 _ _ _ ‹_›
    · cases h
  · cases h

theorem write_of_read? {s : String} (h : read? s = some v) : write v = .ok (line v) :=
  Value.written_of_short (short_of_read? h) _

end Json

end SalesDesk
