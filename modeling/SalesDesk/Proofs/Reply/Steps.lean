import SalesDesk.Proofs.Reply.Spelling
import SalesDesk.Proofs.Text.Rewriting

/-!
What the steps from one currency to another take, and what they put in its place: words, signs and
blanks give way to others, and digits stay.
-/
namespace SalesDesk

namespace Currency

open Text

/-- A piece of text is changed into another. Both begin with the same digits, if any, and go on with
what can stand in no number; the new text shows something, but not the sign. -/
structure Swaps (sign : Char) (piece replacement : List Char) : Prop where
  parts : ∃ digits old new, piece = digits ++ old ∧ replacement = digits ++ new ∧
    digits.all isDigit = true ∧ old ≠ [] ∧ old.any isNumeral = false ∧
    new.any isNumeral = false ∧ new.any (!isBlank ·) = true ∧ sign ∉ new

def TakesSwap (sign : Char) (cs : List Char) (taken : Nat) (replacement : List Char) : Prop :=
  ∃ piece rest, cs = piece ++ rest ∧ taken = piece.length ∧ Swaps sign piece replacement

theorem takenUpTo_append (piece rest : List Char) :
    takenUpTo (piece ++ rest) rest = piece.length := by
  rw [takenUpTo, List.length_append, Nat.add_sub_cancel_right]

section
variable {f t : Currency} {before : Option Char} {cs replacement : List Char} {taken : Nat}

theorem any_isNumeral_of_letters {piece : List Char} (h : piece.all isLetter = true) :
    piece.any isNumeral = false := by
  apply List.any_eq_false.mpr
  intro c hc
  simp [isNumeral_of_isLetter (List.all_eq_true.mp h c hc)]

theorem any_isNumeral_of_blanks {piece : List Char} (h : piece.all isBlank = true) :
    piece.any isNumeral = false := by
  apply List.any_eq_false.mpr
  intro c hc
  simp [isNumeral_of_isBlank (List.all_eq_true.mp h c hc)]

theorem ne_sign_of_isLetter {c : Currency} (hc : c.Lettered) {x : Char}
    (hx : isLetter x = true) : c.sign ≠ x := by
  rintro rfl
  have hword := isWord_of_isLetter hx
  rw [hc.sign_word] at hword
  cases hword

theorem swaps_sign (ht : t.Lettered) (hne : f.sign ≠ t.sign) {piece : List Char}
    (hpiece : piece ≠ []) (hnumeral : piece.any isNumeral = false) :
    Swaps f.sign piece [t.sign] :=
  ⟨[], piece, [t.sign], rfl, rfl, rfl, hpiece, hnumeral, by simp [ht.sign_numeral],
    by simp [ht.sign_blank], by simpa using hne⟩

theorem swaps_words (hf : f.Lettered) (digits old new : List Char)
    (hdigits : digits.all isDigit = true) (hold : old ≠ []) (hnumeral : old.any isNumeral = false)
    (hnew : ∀ c ∈ new, c.isAlpha = true ∨ c = ' ') (hletter : ∃ c ∈ new, c.isAlpha = true) :
    Swaps f.sign (digits ++ old) (digits ++ new) := by
  refine ⟨digits, old, new, rfl, rfl, hdigits, hold, hnumeral, ?_, ?_, ?_⟩
  · apply List.any_eq_false.mpr
    intro c hc
    rcases hnew c hc with hc | rfl
    · simp [isNumeral_of_isLetter (isLetter_of_isAlpha hc)]
    · decide
  · obtain ⟨c, hc, halpha⟩ := hletter
    refine List.any_eq_true.mpr ⟨c, hc, ?_⟩
    have hword := isWord_of_isLetter (isLetter_of_isAlpha halpha)
    cases hblank : isBlank c with
    | false => rfl
    | true =>
      rw [isWord_of_isBlank hblank] at hword
      cases hword
  · intro hmem
    rcases hnew _ hmem with hsign | hsign
    · exact ne_sign_of_isLetter hf (isLetter_of_isAlpha hsign) rfl
    · have hblank := hf.sign_blank
      rw [hsign] at hblank
      cases hblank

theorem swaps_word (hf : f.Lettered) {old word : List Char} (hold : old ≠ [])
    (hnumeral : old.any isNumeral = false) (hword : word.all Char.isAlpha = true)
    (hne : word ≠ []) : Swaps f.sign old word := by
  have hletters := List.all_eq_true.mp hword
  obtain ⟨c, hc⟩ := List.exists_mem_of_ne_nil word hne
  exact swaps_words hf [] old word rfl hold hnumeral (fun x hx => .inl (hletters x hx))
    ⟨c, hc, hletters c hc⟩

theorem takesSwap_signStep (hf : f.Lettered) (ht : t.Lettered) (hne : f.sign ≠ t.sign)
    (h : signStep f t before cs = some (taken, replacement)) :
    TakesSwap f.sign cs taken replacement := by
  unfold signStep at h
  cases cs with
  | nil => cases h
  | cons c more =>
    dsimp only at h
    split at h
    · rename_i hfound
      cases h
      obtain rfl := eq_of_beq (Bool.and_eq_true_iff.mp hfound).1
      have hsplit : f.sign :: more =
          f.sign :: more.takeWhile isBlank ++ more.dropWhile isBlank := by
        rw [List.cons_append, List.takeWhile_append_dropWhile]
      refine ⟨_, _, hsplit, ?_, swaps_sign ht hne (List.cons_ne_nil _ _) ?_⟩
      · rw [hsplit, takenUpTo_append]
      · rw [List.any_cons, hf.sign_numeral, any_isNumeral_of_blanks List.all_takeWhile]
        rfl
    · cases h

theorem takesSwap_nameStep (hf : f.Lettered) (ht : t.Lettered)
    (h : nameStep f t before cs = some (taken, replacement)) :
    TakesSwap f.sign cs taken replacement := by
  unfold nameStep at h
  split at h
  · cases h
  · obtain ⟨more, hmore, h⟩ := Option.bind_eq_some_iff.mp h
    obtain ⟨rest, hrest, h⟩ := Option.bind_eq_some_iff.mp h
    cases h
    obtain ⟨nation, rfl, hnation⟩ := after?_eq_some_iff.mp hmore
    obtain ⟨unit, hunit, hspells⟩ := mem_afterUnit_iff.mp (List.mem_of_find?_eq_some hrest)
    obtain ⟨hne, hletters⟩ := isLetter_of_spellsUnit hf hspells
    have hsplit : nation ++ more = (nation ++ more.takeWhile isBlank ++ unit) ++ rest := by
      rw [List.append_assoc, ← hunit, List.append_assoc, List.takeWhile_append_dropWhile]
    rw [hsplit]
    refine ⟨_, rest, rfl, takenUpTo_append _ rest, ?_⟩
    refine swaps_words hf [] (nation ++ more.takeWhile isBlank ++ unit) t.name.toList rfl
      ?_ ?_ ?_ ?_
    · simp [hne]
    · rw [List.any_append, List.any_append,
        any_isNumeral_of_letters (isLetter_of_spells hnation hf.nation),
        any_isNumeral_of_blanks List.all_takeWhile, any_isNumeral_of_letters hletters]
      rfl
    · have hname : t.name.toList = t.nation.toList ++ ' ' :: (t.unit.toList ++ ['s']) := by
        simp [name]
      rw [hname]
      intro c hc
      rcases List.mem_append.mp hc with hc | hc
      · exact .inl (List.all_eq_true.mp ht.nation c hc)
      rcases List.mem_cons.mp hc with rfl | hc
      · exact .inr rfl
      rcases List.mem_append.mp hc with hc | hc
      · exact .inl (List.all_eq_true.mp ht.unit c hc)
      · exact .inl (List.mem_singleton.mp hc ▸ rfl)
    · exact ⟨'s', by simp [name], rfl⟩

theorem takesSwap_amountStep (hf : f.Lettered) (ht : t.Lettered)
    (h : amountStep f t before cs = some (taken, replacement)) :
    TakesSwap f.sign cs taken replacement := by
  unfold amountStep at h
  cases cs with
  | nil => cases h
  | cons c more =>
    dsimp only at h
    split at h
    · cases h
    · rename_i hdigit
      obtain ⟨rest, hrest, h⟩ := Option.bind_eq_some_iff.mp h
      cases h
      obtain ⟨unit, hunit, hspells⟩ := mem_afterUnit_iff.mp (List.mem_of_head? hrest)
      obtain ⟨hne, hletters⟩ := isLetter_of_spellsUnit hf hspells
      have hsplit : c :: more = ([c] ++ (more.takeWhile isBlank ++ unit)) ++ rest := by
        rw [List.append_assoc, List.append_assoc, ← hunit, List.takeWhile_append_dropWhile]
        rfl
      rw [hsplit]
      refine ⟨_, rest, rfl, takenUpTo_append _ rest, ?_⟩
      have hunits := List.all_eq_true.mp ht.units
      obtain ⟨u, hu⟩ := List.exists_mem_of_ne_nil _ ht.units_ne
      apply swaps_words hf [c] (more.takeWhile isBlank ++ unit) (' ' :: t.units.toList)
      · simpa using hdigit
      · simp [hne]
      · rw [List.any_append, any_isNumeral_of_blanks List.all_takeWhile,
          any_isNumeral_of_letters hletters]
        rfl
      · intro x hx
        rcases List.mem_cons.mp hx with rfl | hx
        · exact .inr rfl
        · exact .inl (hunits x hx)
      · exact ⟨u, List.mem_cons_of_mem _ hu, hunits u hu⟩

theorem takesSwap_leadingUnitStep (hf : f.Lettered) (ht : t.Lettered) (hne : f.sign ≠ t.sign)
    (h : leadingUnitStep f t before cs = some (taken, replacement)) :
    TakesSwap f.sign cs taken replacement := by
  obtain ⟨rest, hrest, h⟩ := Option.bind_eq_some_iff.mp h
  cases h
  obtain ⟨more, hmore, rfl⟩ := List.mem_map.mp (List.mem_of_find?_eq_some hrest)
  obtain ⟨unit, rfl, hspells⟩ := mem_afterUnit_iff.mp hmore
  obtain ⟨hunit, hletters⟩ := isLetter_of_spellsUnit hf hspells
  have hsplit : unit ++ more = (unit ++ more.takeWhile isBlank) ++ more.dropWhile isBlank := by
    rw [List.append_assoc, List.takeWhile_append_dropWhile]
  refine ⟨_, _, hsplit, ?_, swaps_sign ht hne (by simp [hunit]) ?_⟩
  · rw [hsplit, takenUpTo_append]
  · rw [List.any_append, any_isNumeral_of_letters hletters,
      any_isNumeral_of_blanks List.all_takeWhile]
    rfl

theorem takesSwap_unitStep (hf : f.Lettered) (ht : t.Lettered)
    (h : unitStep f t before cs = some (taken, replacement)) :
    TakesSwap f.sign cs taken replacement := by
  unfold unitStep at h
  split at h
  · cases h
  · obtain ⟨rest, hrest, h⟩ := Option.bind_eq_some_iff.mp h
    cases h
    obtain ⟨piece, rfl, hpiece⟩ := mem_afterUnit_iff.mp (List.mem_of_find?_eq_some hrest)
    obtain ⟨hne, hletters⟩ := isLetter_of_spellsUnit hf hpiece
    exact ⟨piece, rest, rfl, takenUpTo_append piece rest,
      swaps_word hf hne (any_isNumeral_of_letters hletters) ht.units ht.units_ne⟩

theorem takesSwap_codeStep (hf : f.Lettered) (ht : t.Lettered)
    (h : codeStep f t before cs = some (taken, replacement)) :
    TakesSwap f.sign cs taken replacement := by
  unfold codeStep at h
  split at h
  · cases h
  · obtain ⟨rest, hrest, h⟩ := Option.bind_eq_some_iff.mp h
    split at h
    · cases h
    · cases h
      obtain ⟨piece, rfl, hpiece⟩ := after?_eq_some_iff.mp hrest
      have hne : piece ≠ [] := by
        rintro rfl
        have hcode : f.code.toList = [] := List.forall₂_nil_right_iff.mp hpiece
        exact hf.code_ne hcode
      exact ⟨piece, rest, rfl, takenUpTo_append piece rest,
        swaps_word hf hne (any_isNumeral_of_letters (isLetter_of_spells hpiece hf.code)) ht.code
          ht.code_ne⟩

def Swapping (sign : Char) (step : Step) : Prop :=
  ∀ before cs taken replacement, step before cs = some (taken, replacement) →
    TakesSwap sign cs taken replacement

/-- Each step from one currency to another swaps what it takes. -/
theorem swapping_of_mem_steps (hf : f.Lettered) (ht : t.Lettered) (hne : f.sign ≠ t.sign)
    {step : Step} (hstep : step ∈ f.steps t) : Swapping f.sign step := by
  simp only [steps, List.map_cons, List.map_nil, List.mem_cons, List.not_mem_nil, or_false] at hstep
  rcases hstep with rfl | rfl | rfl | rfl | rfl | rfl
  · exact fun _ _ _ _ => takesSwap_signStep hf ht hne
  · exact fun _ _ _ _ => takesSwap_nameStep hf ht
  · exact fun _ _ _ _ => takesSwap_amountStep hf ht
  · exact fun _ _ _ _ => takesSwap_leadingUnitStep hf ht hne
  · exact fun _ _ _ _ => takesSwap_unitStep hf ht
  · exact fun _ _ _ _ => takesSwap_codeStep hf ht

namespace Swapping

variable {sign : Char} {step : Step}

theorem takes (h : Swapping sign step) : step.Takes := by
  intro before cs taken replacement hstep
  obtain ⟨piece, rest, hcs, htaken, ⟨digits, old, new, rfl, -, -, hold, -⟩⟩ := h _ _ _ _ hstep
  exact ⟨_, rest, hcs, by simp [hold], htaken⟩

theorem swaps (h : Swapping sign step) {piece rest : List Char}
    (hstep : step before (piece ++ rest) = some (piece.length, replacement)) :
    Swaps sign piece replacement := by
  obtain ⟨piece', rest', hcs, hlength, hswaps⟩ := h _ _ _ _ hstep
  obtain rfl := (List.append_inj hcs hlength).1
  exact hswaps

end Swapping

end

end Currency

end SalesDesk
