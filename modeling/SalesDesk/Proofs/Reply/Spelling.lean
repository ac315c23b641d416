import SalesDesk.Proofs.Text.Classes
import SalesDesk.Reply.Currency
import Mathlib.Data.List.Forall2

/-! The words of currencies as they are spelled in a text, in either case. -/
namespace SalesDesk

namespace Currency

open Text

section
variable {c : Char}

def isLetter (c : Char) : Bool := c.isAlpha || ['ſ', 'İ', 'ı'].contains c

theorem isLetter_of_sameLetter {a b : Char} (ha : a.isAlpha = true)
    (h : sameLetter a b = true) : isLetter b = true := by
  simp only [sameLetter, Bool.or_eq_true, Bool.and_eq_true, beq_iff_eq] at h
  rcases h with (h | ⟨-, rfl⟩) | ⟨-, rfl | rfl⟩
  · rw [isLetter, isAlpha_of_toLower h ha, Bool.true_or]
  · rfl
  · rfl
  · rfl

theorem isLetter_of_isAlpha (h : c.isAlpha = true) : isLetter c = true := by
  rw [isLetter, h, Bool.true_or]

theorem isWord_of_isLetter (h : isLetter c = true) : isWord c = true := by
  rcases Bool.or_eq_true_iff.mp h with halpha | hother
  · have hrange := (isAlpha_iff c).mp halpha
    rw [isWord, if_pos (by omega), Char.isAlphanum, halpha]
    rfl
  · have hall : ['ſ', 'İ', 'ı'].all isWord = true := by decide +kernel
    exact List.all_eq_true.mp hall c (List.contains_iff_mem.mp hother)

theorem isNumeral_of_isLetter (h : isLetter c = true) : isNumeral c = false := by
  rcases Bool.or_eq_true_iff.mp h with halpha | hother
  · have hrange := (isAlpha_iff c).mp halpha
    have hdigit : c.isDigit = false := by
      cases hc : c.isDigit with
      | false => rfl
      | true =>
        have := toNat_of_isDigit hc
        omega
    have hcomma : c ≠ ',' := by rintro rfl; cases halpha
    have hpoint : c ≠ '.' := by rintro rfl; cases halpha
    simp [isNumeral, isDigit, digitValue?, hdigit, hcomma, hpoint, show c.toNat < 128 by omega]
  · have hall : ['ſ', 'İ', 'ı'].all (!isNumeral ·) = true := by decide +kernel
    simpa using List.all_eq_true.mp hall c (List.contains_iff_mem.mp hother)

end

def Spells (word piece : List Char) : Prop :=
  List.Forall₂ (fun a b => sameLetter a b = true) word piece

theorem spells_append_iff {word more piece : List Char} : Spells (word ++ more) piece ↔
    ∃ first last, piece = first ++ last ∧ Spells word first ∧ Spells more last := by
  constructor
  · intro h
    induction word generalizing piece with
    | nil => exact ⟨[], piece, rfl, .nil, h⟩
    | cons w word ih =>
      cases h with
      | cons hw h =>
        obtain ⟨first, last, rfl, hfirst, hlast⟩ := ih h
        exact ⟨_ :: first, last, rfl, .cons hw hfirst, hlast⟩
  · rintro ⟨first, last, rfl, hfirst, hlast⟩
    exact List.rel_append hfirst hlast

theorem after?_eq_some_iff {word cs rest : List Char} :
    after? word cs = some rest ↔ ∃ piece, cs = piece ++ rest ∧ Spells word piece := by
  induction word generalizing cs with
  | nil =>
    constructor
    · intro h
      cases h
      exact ⟨[], rfl, .nil⟩
    · rintro ⟨piece, rfl, h⟩
      cases h
      rfl
  | cons w word ih =>
    cases cs with
    | nil =>
      constructor
      · intro h
        cases h
      · rintro ⟨piece, h, hspells⟩
        obtain ⟨rfl, rfl⟩ := List.append_eq_nil_iff.mp h.symm
        cases hspells
    | cons c cs =>
      rw [after?]
      split
      · rename_i hc
        rw [ih]
        constructor
        · rintro ⟨piece, rfl, h⟩
          exact ⟨c :: piece, rfl, .cons hc h⟩
        · rintro ⟨piece, h, hspells⟩
          cases hspells with
          | cons _ hspells =>
            cases h
            exact ⟨_, rfl, hspells⟩
      · rename_i hc
        constructor
        · intro h
          cases h
        · rintro ⟨piece, h, hspells⟩
          cases hspells with
          | cons hfirst _ =>
            cases h
            exact absurd hfirst hc

def SpellsUnit (unit : String) (piece : List Char) : Prop :=
  Spells unit.toList piece ∨ Spells (unit.toList ++ ['s']) piece

theorem mem_afterUnit_iff {unit : String} {cs rest : List Char} :
    rest ∈ afterUnit unit cs ↔ ∃ piece, cs = piece ++ rest ∧ SpellsUnit unit piece := by
  unfold afterUnit
  constructor
  · intro h
    split at h
    · cases h
    · rename_i more hmore
      obtain ⟨piece, rfl, hpiece⟩ := after?_eq_some_iff.mp hmore
      rcases List.mem_append.mp h with h | h
      · obtain ⟨last, rfl, hlast⟩ := after?_eq_some_iff.mp (Option.mem_toList.mp h)
        exact ⟨piece ++ last, (List.append_assoc ..).symm, .inr (List.rel_append hpiece hlast)⟩
      · obtain rfl := List.mem_singleton.mp h
        exact ⟨piece, rfl, .inl hpiece⟩
  · rintro ⟨piece, rfl, hpiece | hpiece⟩
    · rw [after?_eq_some_iff.mpr ⟨piece, rfl, hpiece⟩]
      exact List.mem_append_right _ List.mem_cons_self
    · obtain ⟨first, last, rfl, hfirst, hlast⟩ := spells_append_iff.mp hpiece
      rw [List.append_assoc, after?_eq_some_iff.mpr ⟨first, rfl, hfirst⟩]
      apply List.mem_append_left
      exact Option.mem_toList.mpr (after?_eq_some_iff.mpr ⟨last, rfl, hlast⟩)

theorem isLetter_of_spells {word piece : List Char} (h : Spells word piece)
    (hword : word.all Char.isAlpha = true) : piece.all isLetter = true := by
  induction h with
  | nil => rfl
  | cons hfirst _ ih =>
    obtain ⟨hw, hrest⟩ := Bool.and_eq_true_iff.mp hword
    rw [List.all_cons, isLetter_of_sameLetter hw hfirst, ih hrest]
    rfl

/-- The words of a currency are made of letters, and its sign is none of the characters that texts
and numbers are made of. -/
structure Lettered (c : Currency) : Prop where
  nation : c.nation.toList.all Char.isAlpha = true
  unit : c.unit.toList.all Char.isAlpha = true
  unit_ne : c.unit.toList ≠ []
  units : c.units.toList.all Char.isAlpha = true
  units_ne : c.units.toList ≠ []
  code : c.code.toList.all Char.isAlpha = true
  code_ne : c.code.toList ≠ []
  sign_word : isWord c.sign = false
  sign_blank : isBlank c.sign = false
  sign_numeral : isNumeral c.sign = false

theorem lettered_rupee : rupee.Lettered := by constructor <;> decide +kernel

theorem lettered_dollar : dollar.Lettered := by constructor <;> decide +kernel

theorem isLetter_of_spellsUnit {c : Currency} (hc : c.Lettered) {piece : List Char}
    (h : SpellsUnit c.unit piece) : piece ≠ [] ∧ piece.all isLetter = true := by
  have hne : ∀ {word : List Char}, Spells word piece → word ≠ [] → piece ≠ [] := by
    rintro word hspells hword rfl
    cases hspells
    exact hword rfl
  rcases h with h | h
  · exact ⟨hne h hc.unit_ne, isLetter_of_spells h hc.unit⟩
  · refine ⟨hne h (by simp), isLetter_of_spells h ?_⟩
    rw [List.all_append, hc.unit]
    rfl

end Currency

end SalesDesk
