import SalesDesk.Proofs.Number.Digits
import SalesDesk.Proofs.Text.NumbersIn
import SalesDesk.Proofs.Text.SmallLetters

/-! How blanks, digits, letters and the characters of words and numbers stand to each other. -/
namespace SalesDesk.Text

/-- Blanks lie apart from digits and from the characters of words, and all digits among these. -/
theorem ranges_apart : (∀ r ∈ blankRanges, isApart digitRanges r.1 r.2 = true) ∧
    (∀ r ∈ blankRanges, isApart wordRanges r.1 r.2 = true) ∧
    (digitZeros.all fun z => wordRanges.any fun r => r.1.ble z && (z + 9).ble r.2) = true := by
  decide +kernel

theorem isDigit_of_isBlank {c : Char} (h : isBlank c = true) : isDigit c = false := by
  obtain ⟨r, hr, hc⟩ := List.any_eq_true.mp h
  rw [Bool.and_eq_true, decide_eq_true_eq, decide_eq_true_eq] at hc
  rw [isDigit_eq_inRanges, inRanges_of_isApart (ranges_apart.1 r hr) hc.1 hc.2]

theorem not_isBlank_of_isDigit {c : Char} (h : isDigit c = true) : isBlank c = false := by
  cases hblank : isBlank c with
  | false => rfl
  | true =>
    rw [isDigit_of_isBlank hblank] at h
    cases h

theorem isNumeral_of_isBlank {c : Char} (h : isBlank c = true) : isNumeral c = false := by
  have hcomma : c ≠ ',' := by rintro rfl; cases h
  have hpoint : c ≠ '.' := by rintro rfl; cases h
  simp [isNumeral, isDigit_of_isBlank h, hcomma, hpoint]

theorem isWord_of_isBlank {c : Char} (h : isBlank c = true) : isWord c = false := by
  have hascii : ∀ n < 128, isBlank (Char.ofNat n) = true → isWord (Char.ofNat n) = false := by
    decide
  by_cases hsmall : c.toNat < 128
  · have hc := hascii c.toNat hsmall
    rw [Char.ofNat_toNat] at hc
    exact hc h
  · obtain ⟨r, hr, hc⟩ := List.any_eq_true.mp h
    rw [Bool.and_eq_true, decide_eq_true_eq, decide_eq_true_eq] at hc
    rw [isWord, if_neg hsmall, inRanges_of_isApart (ranges_apart.2.1 r hr) hc.1 hc.2]

theorem isAlpha_iff (c : Char) :
    c.isAlpha = true ↔ 65 ≤ c.toNat ∧ c.toNat ≤ 90 ∨ 97 ≤ c.toNat ∧ c.toNat ≤ 122 := by
  unfold Char.isAlpha Char.isUpper Char.isLower
  simp only [Bool.or_eq_true, Bool.and_eq_true, decide_eq_true_eq, ge_iff_le,
    UInt32.le_iff_toNat_le]
  rfl

theorem toNat_toLower (c : Char) :
    c.toLower.toNat = if 65 ≤ c.toNat ∧ c.toNat ≤ 90 then c.toNat + 32 else c.toNat := by
  have hcapital : (c.val ≥ 'A'.val ∧ c.val ≤ 'Z'.val) ↔ 65 ≤ c.toNat ∧ c.toNat ≤ 90 := by
    simp only [ge_iff_le, UInt32.le_iff_toNat_le]
    rfl
  unfold Char.toLower
  by_cases h : c.val ≥ 'A'.val ∧ c.val ≤ 'Z'.val
  · rw [dif_pos h, if_pos (hcapital.mp h)]
    have hrange := hcapital.mp h
    have hval : c.val.toNat = c.toNat := rfl
    have hdiff : ('a'.val - 'A'.val).toNat = 32 := rfl
    change (c.val + ('a'.val - 'A'.val)).toNat = _
    rw [UInt32.toNat_add, hdiff, hval]
    omega
  · rw [dif_neg h, if_neg (mt hcapital.mpr h)]

theorem isAlpha_of_toLower {a b : Char} (h : a.toLower = b.toLower) (ha : a.isAlpha = true) :
    b.isAlpha = true := by
  have hcode := congrArg Char.toNat h
  rw [toNat_toLower, toNat_toLower] at hcode
  rw [isAlpha_iff] at ha ⊢
  split at hcode <;> split at hcode <;> omega

theorem isWord_of_digit {c : Char} (h : isDigit c = true) : isWord c = true := by
  by_cases hascii : c.toNat < 128
  · have hdigit : c.isDigit = true := by
      rw [isDigit, digitValue?, if_pos hascii] at h
      split at h
      · assumption
      · cases h
    rw [isWord, if_pos hascii, Char.isAlphanum, hdigit, Bool.or_true, Bool.true_or]
  · rw [isDigit, digitValue?, if_neg hascii, Option.isSome_map, List.find?_isSome] at h
    obtain ⟨z, hz, hc⟩ := h
    rw [Bool.and_eq_true, decide_eq_true_eq, decide_eq_true_eq] at hc
    obtain ⟨r, hr, hrange⟩ := List.any_eq_true.mp (List.all_eq_true.mp ranges_apart.2.2 z hz)
    rw [Bool.and_eq_true, Nat.ble_eq, Nat.ble_eq] at hrange
    rw [isWord, if_neg hascii]
    apply List.any_eq_true.mpr
    refine ⟨r, hr, ?_⟩
    rw [Bool.and_eq_true, decide_eq_true_eq, decide_eq_true_eq]
    omega

end SalesDesk.Text
