import SalesDesk.Number.Fixed
import SalesDesk.Number.Reading
import Mathlib.Data.List.Induction
import Mathlib.Tactic.SplitIfs

/-! Digits as characters, the runs of them that numbers are written as, and what such runs say. -/
namespace SalesDesk

namespace Text

theorem toNat_of_isDigit {c : Char} (h : c.isDigit = true) : 48 ≤ c.toNat ∧ c.toNat ≤ 57 := by
  simp only [Char.isDigit, Bool.and_eq_true, decide_eq_true_eq, UInt32.le_iff_toNat_le] at h
  exact h

theorem lt_of_digitValue? {c : Char} {v : Nat} (h : digitValue? c = some v) : v < 10 := by
  unfold digitValue? at h
  split_ifs at h with hascii hdigit
  · obtain rfl := Option.some.inj h
    have hrange := toNat_of_isDigit hdigit
    have hzero : '0'.toNat = 48 := rfl
    omega
  · obtain ⟨z, hz, rfl⟩ := Option.map_eq_some_iff.mp h
    have hrange := List.find?_some hz
    simp only [Bool.and_eq_true, decide_eq_true_eq] at hrange
    omega

/-- No digit of any script is a blank. -/
theorem isBlank_of_isDigit {c : Char} (h : isDigit c = true) (hascii : ¬c.toNat < 128) :
    isBlank c = false := by
  obtain ⟨v, hv⟩ := Option.isSome_iff_exists.mp h
  unfold digitValue? at hv
  rw [if_neg hascii] at hv
  obtain ⟨z, hz, -⟩ := Option.map_eq_some_iff.mp hv
  have hrange := List.find?_some hz
  simp only [Bool.and_eq_true, decide_eq_true_eq] at hrange
  have happart : ∀ z ∈ digitZeros, ∀ r ∈ blankRanges, z + 10 ≤ r.1 ∨ r.2 < z := by decide
  apply List.any_eq_false.mpr
  intro r hr
  have hr := happart z (List.mem_of_find?_eq_some hz) r hr
  simp only [Bool.and_eq_true, decide_eq_true_eq]
  omega

theorem isBlank_of_asciiDigit {c : Char} (h : c.isDigit = true) : isBlank c = false := by
  have hrange := toNat_of_isDigit h
  apply List.any_eq_false.mpr
  intro r hr
  have hapart : ∀ r ∈ blankRanges, r.2 < 48 ∨ 57 < r.1 := by decide
  have hr := hapart r hr
  simp only [Bool.and_eq_true, decide_eq_true_eq]
  omega

end Text

namespace Number

theorem isDigit_plainDigit {c : Char} (h : Text.isDigit c = true) :
    (plainDigit c).isDigit = true := by
  obtain ⟨v, hv⟩ := Option.isSome_iff_exists.mp h
  have hall : ∀ v < 10, (Char.ofNat ('0'.toNat + v)).isDigit = true := by decide
  rw [plainDigit, hv]
  exact hall v (Text.lt_of_digitValue? hv)

theorem digitValue?_of_isDigit {c : Char} (h : c.isDigit = true) :
    Text.digitValue? c = some (c.toNat - '0'.toNat) := by
  have hrange := Text.toNat_of_isDigit h
  rw [Text.digitValue?, if_pos (by omega), if_pos h]

theorem map_plainDigit {ds : List Char} (h : ∀ c ∈ ds, c.isDigit = true) :
    ds.map plainDigit = ds := by
  have hself : ∀ c ∈ ds, plainDigit c = id c := by
    intro c hc
    have hrange := Text.toNat_of_isDigit (h c hc)
    have hzero : '0'.toNat = 48 := rfl
    rw [plainDigit, digitValue?_of_isDigit (h c hc)]
    simp only [show '0'.toNat + (c.toNat - '0'.toNat) = c.toNat by omega, Char.ofNat_toNat, id]
  rw [List.map_congr_left hself, List.map_id]

theorem digitsToNat_eq (ds : List Char) : digitsToNat ds = Nat.ofDigitChars 10 ds 0 := by
  rw [digitsToNat, Nat.ofDigitChars_eq_foldl]

theorem digitsToNat_lt {ds : List Char} (h : ∀ c ∈ ds, c.isDigit = true) :
    digitsToNat ds < Nat.pow 10 ds.length := by
  induction ds using List.reverseRecOn with
  | nil => decide
  | append_singleton ds c ih =>
    have hinit := ih fun d hd => h d (List.mem_append_left _ hd)
    have hc := Text.toNat_of_isDigit (h c (by simp))
    have hpow : Nat.pow 10 (ds.length + 1) = Nat.pow 10 ds.length * 10 := rfl
    have hzero : '0'.toNat = 48 := rfl
    rw [digitsToNat_eq] at hinit
    rw [digitsToNat_eq, Nat.ofDigitChars_append, Nat.ofDigitChars_cons, Nat.ofDigitChars_nil,
      List.length_append, List.length_singleton, hpow]
    omega

theorem isDigit_digits {n : Nat} : ∀ c ∈ digits n, c.isDigit = true :=
  fun _ hc => Nat.isDigit_of_mem_toDigits (by decide) (by decide) hc

theorem isDigit_padLeft {width n : Nat} : ∀ c ∈ padLeft width (digits n), c.isDigit = true := by
  intro c hc
  rcases List.mem_append.mp hc with hc | hc
  · rw [(List.mem_replicate.mp hc).2]
    rfl
  · exact isDigit_digits c hc

theorem length_padLeft {width n : Nat} (hwidth : 0 < width) (h : n < Nat.pow 10 width) :
    (padLeft width (digits n)).length = width := by
  have hle : (digits n).length ≤ width :=
    (Nat.length_toDigits_le_iff (by decide) hwidth).mpr h
  rw [padLeft, List.length_append, List.length_replicate]
  omega

/-- A number is read back from its digits, whatever they are filled to. -/
theorem digitsToNat_padLeft (width n : Nat) : digitsToNat (padLeft width (digits n)) = n := by
  rw [digitsToNat_eq, padLeft, Nat.ofDigitChars_append, Nat.ofDigitChars_replicate_zero,
    Nat.mul_zero]
  exact Nat.ofDigitChars_ten_toDigits

end Number

end SalesDesk
