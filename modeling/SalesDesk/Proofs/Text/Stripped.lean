import SalesDesk.Proofs.Number.Digits
import SalesDesk.Value.Basic
import Mathlib.Data.List.DropRight
import Mathlib.Data.List.Induction

/-!
Texts without blanks at their ends. Stripping twice is stripping once, and only blank texts become
empty; what a value other than a text looks like is never blank.
-/
namespace SalesDesk

namespace Text

theorem stripChars_eq (cs : List Char) :
    stripChars cs = (cs.dropWhile isBlank).rdropWhile isBlank := rfl

theorem stripChars_stripChars (cs : List Char) : stripChars (stripChars cs) = stripChars cs := by
  -- what is left after both steps begins as it did after the first one
  have hleft : (stripChars cs).dropWhile isBlank = stripChars cs := by
    rw [List.dropWhile_eq_self_iff]
    intro hpos
    have hprefix : stripChars cs <+: cs.dropWhile isBlank := List.rdropWhile_prefix isBlank _
    have hkept := List.dropWhile_eq_self_iff.mp (List.dropWhile_idempotent isBlank cs)
      (hpos.trans_le hprefix.length_le)
    rwa [← hprefix.getElem hpos] at hkept
  rw [stripChars_eq (stripChars cs), hleft, stripChars_eq, List.rdropWhile_idempotent]

theorem stripChars_eq_nil {cs : List Char} (h : stripChars cs = []) :
    ∀ c ∈ cs, isBlank c = true := by
  rw [stripChars_eq, List.rdropWhile_eq_nil_iff] at h
  intro c hc
  rw [← List.takeWhile_append_dropWhile (p := isBlank) (l := cs)] at hc
  rcases List.mem_append.mp hc with hc | hc
  · exact List.mem_takeWhile_imp hc
  · exact h c hc

/-- What does not depend on a blank at either end does not depend on all the blanks there. -/
theorem stripChars_iff {P : List Char → Prop}
    (hfirst : ∀ b cs, isBlank b = true → (P (b :: cs) ↔ P cs))
    (hlast : ∀ b cs, isBlank b = true → (P (cs ++ [b]) ↔ P cs)) (cs : List Char) :
    P (stripChars cs) ↔ P cs := by
  have hleft : P (cs.dropWhile isBlank) ↔ P cs := by
    induction cs with
    | nil => rfl
    | cons c rest ih =>
      cases hc : isBlank c with
      | true => rw [List.dropWhile_cons_of_pos hc, ih, hfirst c rest hc]
      | false => rw [List.dropWhile_cons_of_neg (by simp [hc])]
  have hright : ∀ cs : List Char, P (cs.rdropWhile isBlank) ↔ P cs := by
    intro cs
    induction cs using List.reverseRecOn with
    | nil => rfl
    | append_singleton rest c ih =>
      cases hc : isBlank c with
      | true => rw [List.rdropWhile_concat_pos isBlank rest c hc, ih, hlast c rest hc]
      | false => rw [List.rdropWhile_concat_neg isBlank rest c (by simp [hc])]
  rw [stripChars_eq, hright, hleft]

theorem stripChars_concat {c : Char} (hc : isBlank c = false) (cs : List Char) :
    ∃ start, stripChars (cs ++ [c]) = start ++ [c] := by
  have hkeep : ¬isBlank c = true := by simp [hc]
  have hleft : ∃ start, (cs ++ [c]).dropWhile isBlank = start ++ [c] := by
    rw [List.dropWhile_append]
    split
    · exact ⟨[], by rw [List.dropWhile_cons_of_neg hkeep, List.nil_append]⟩
    · exact ⟨_, rfl⟩
  obtain ⟨start, hstart⟩ := hleft
  exact ⟨start, by rw [stripChars_eq, hstart, List.rdropWhile_concat_neg isBlank start c hkeep]⟩

@[simp] theorem strip_strip (s : String) : strip (strip s) = strip s := by
  rw [strip, strip, String.toList_ofList, stripChars_stripChars]

theorem isBlankText_of_strip {s : String} (h : strip s = "") : isBlankText s = true := by
  have hnil : stripChars s.toList = [] := by
    rw [strip, ← String.ofList_nil] at h
    exact String.ofList_injective h
  exact List.all_eq_true.mpr (stripChars_eq_nil hnil)

theorem isBlankText_of_mem {s : String} {c : Char} (hc : isBlank c = false) (h : c ∈ s.toList) :
    isBlankText s = false :=
  List.all_eq_false.mpr ⟨c, h, by simp [hc]⟩

end Text

open Text

namespace Number

theorem isBlankText_repr (n : Nat) : isBlankText n.repr = false := by
  have hne : digits n ≠ [] := List.ne_nil_of_length_pos Nat.length_toDigits_pos
  obtain ⟨c, hc⟩ := List.exists_mem_of_ne_nil _ hne
  refine isBlankText_of_mem (isBlank_of_asciiDigit (isDigit_digits c hc)) ?_
  rwa [Nat.repr_eq_ofList_toDigits, String.toList_ofList]

theorem point_or_mark_mem_size (f : DoubleFormat) (x : Float) :
    '.' ∈ f.size x ∨ f.exponentMark ∈ f.size x := by
  unfold DoubleFormat.size
  simp only
  split
  · exact .inl (by simp)
  · split
    · left
      unfold positional
      split
      · simp
      · split <;> simp
    · right
      simp [withExponent]

theorem isBlankText_plainDouble (x : Float) : isBlankText (plainDouble.text x) = false := by
  unfold DoubleFormat.text
  split
  · rfl
  · by_cases hinf : x.isInf = true
    · exact isBlankText_of_mem (c := 'i') rfl (by simp [hinf, plainDouble])
    · rcases point_or_mark_mem_size plainDouble x with h | h
      · exact isBlankText_of_mem (c := '.') rfl (by simp [hinf, h])
      · exact isBlankText_of_mem (c := plainDouble.exponentMark) rfl (by simp [hinf, h])

end Number

namespace Value

theorem isBlankText_shown {v : Value} (h : ∀ s, v ≠ .text s) : isBlankText v.shown = false := by
  cases v with
  | text s => exact absurd rfl (h s)
  | null => rfl
  | bool b => cases b <;> rfl
  | int n =>
    cases n with
    | ofNat k => exact Number.isBlankText_repr k
    | negSucc k =>
      refine isBlankText_of_mem (c := '-') rfl ?_
      change '-' ∈ ("-" ++ (k + 1).repr).toList
      simp
  | number x => exact Number.isBlankText_plainDouble x
  | date d => exact isBlankText_of_mem (c := '-') rfl (by simp [shown, Date.iso])
  | moment m => exact isBlankText_of_mem (c := '-') rfl (by simp [shown, Moment.withMark, Date.iso])
  | list items => exact isBlankText_of_mem (c := '[') rfl (by simp [shown, quoted])
  | object fields => exact isBlankText_of_mem (c := '\x7b') rfl (by simp [shown, quoted])

end Value

end SalesDesk
