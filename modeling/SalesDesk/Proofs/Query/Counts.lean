import SalesDesk.Proofs.Text.Runs
import SalesDesk.Proofs.Value.Read
import SalesDesk.Query.Numbers

/-! A run of digits in a question is an integer, unless it is too long. -/
namespace SalesDesk

namespace Number

theorem isPadding_of_isDigit {c : Char} (h : Text.isDigit c = true) : isPadding c = false := by
  unfold isPadding
  by_cases hascii : c.toNat < 128
  · have hdigit : c.isDigit = true := by
      rw [Text.isDigit, Text.digitValue?, if_pos hascii] at h
      cases hdigit : c.isDigit with
      | true => rfl
      | false => simp [hdigit] at h
    have hrange := Text.toNat_of_isDigit hdigit
    have hspace : c ≠ ' ' := by
      rintro rfl
      exact absurd hrange (by decide)
    rw [if_pos (by omega)]
    simp [hspace]
    omega
  · rw [if_neg (by omega)]
    exact Text.isBlank_of_isDigit h hascii

theorem unpad_of_digits {ds : List Char} (h : ∀ c ∈ ds, Text.isDigit c = true) :
    unpad ds = ds := by
  have hkeep : ∀ cs : List Char, (∀ c ∈ cs, Text.isDigit c = true) →
      cs.dropWhile isPadding = cs := by
    intro cs hcs
    cases cs with
    | nil => rfl
    | cons c rest => simp [isPadding_of_isDigit (hcs c List.mem_cons_self)]
  rw [unpad, hkeep ds h, hkeep ds.reverse fun c hc => h c (List.mem_reverse.mp hc),
    List.reverse_reverse]

theorem dropUnderscores_of_digits {ds : List Char} (h : ∀ c ∈ ds, c.isDigit = true) :
    dropUnderscores ds = some ds := by
  have hmark : '_' ∉ ds := fun hd => absurd (h '_' hd) (by decide)
  fun_induction dropUnderscores ds with
  | case1 => rfl
  | case2 => exact absurd List.mem_cons_self hmark
  | case3 => exact absurd List.mem_cons_self hmark
  | case4 => exact absurd (List.mem_cons_of_mem _ List.mem_cons_self) hmark
  | case5 => exact absurd (List.mem_cons_of_mem _ List.mem_cons_self) hmark
  | case6 c rest _ _ _ ih =>
    have hrest : '_' ∉ rest := fun hd => hmark (List.mem_cons_of_mem _ hd)
    rw [ih (fun d hd => h d (List.mem_cons_of_mem _ hd)) hrest]
    rfl

/-- A run of digits that is not too long says the integer that it writes. -/
theorem readInt_of_digits {ds : List Char} (hne : ds ≠ [])
    (h : ∀ c ∈ ds, Text.isDigit c = true) (hlength : ds.length ≤ maxIntegerDigits) :
    readInt (String.ofList ds) = .value (digitsToNat (ds.map plainDigit)) := by
  have hplain : ∀ c ∈ ds.map plainDigit, c.isDigit = true := by
    intro c hc
    obtain ⟨d, hd, rfl⟩ := List.mem_map.mp hc
    exact isDigit_plainDigit (h d hd)
  have hsign : takeSign (ds.map plainDigit) = (false, ds.map plainDigit) := by
    unfold takeSign
    split
    · exact absurd (hplain '-' (by simp [*])) (by decide)
    · exact absurd (hplain '+' (by simp [*])) (by decide)
    · rfl
  have hall : (ds.map plainDigit).all (·.isDigit) = true := List.all_eq_true.mpr hplain
  unfold readInt
  rw [String.toList_ofList, unpad_of_digits h, hsign]
  simp only [dropUnderscores_of_digits hplain, hall]
  rw [if_neg (by simpa using hne), if_neg (by simpa using hlength)]
  rfl

end Number

namespace Query

/-- The count of a question can be read if no run of its digits is too long for an integer. -/
theorem exists_count? {query : String}
    (h : ∀ run ∈ Text.runs Text.isDigit query.toList, run.length ≤ Number.maxIntegerDigits) :
    ∃ count, count? query = .ok count := by
  unfold count?
  split
  · exact ⟨none, rfl⟩
  · rename_i token htoken
    have hmem := List.mem_of_find?_eq_some htoken
    obtain ⟨hne, hdigits⟩ := Text.mem_runs hmem
    rw [Number.readInt_of_digits hne hdigits (h token hmem)]
    exact ⟨_, rfl⟩

theorem isWritable_of_count? {query : String} {n : Int} (h : count? query = .ok (some n)) :
    Number.isWritable n = true := by
  unfold count? at h
  split at h
  · cases h
  · split at h
    · cases h
      exact Number.isWritable_of_readInt ‹_›
    · cases h
    · cases h

end Query

end SalesDesk
