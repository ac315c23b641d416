import SalesDesk.Proofs.Text.Classes
import SalesDesk.Proofs.Text.Joined
import SalesDesk.Proofs.Text.Rewriting
import Mathlib.Data.List.Induction

/-!
The words of a text and of what is put together from parts: a word beside what is none, digits
before a word, and words of which some are taken for another one.
-/
namespace SalesDesk.Text

section
variable {belongs : Char → Bool} {w rest : List Char}

theorem runs_cons {c : Char} (h : belongs c = false) (cs : List Char) :
    runs belongs (c :: cs) = runs belongs cs := runs_append_cons h [] cs

theorem runs_append_run (hne : w ≠ []) (hw : w.all belongs = true)
    (hrest : rest.head?.any belongs = false) :
    runs belongs (w ++ rest) = w :: runs belongs rest := by
  cases rest with
  | nil =>
    rw [List.append_nil, runs_eq_singleton hne hw]
    rfl
  | cons c rest =>
    rw [runs_append_cons hrest, runs_eq_singleton hne hw, runs_cons hrest]
    rfl

theorem takeWhile_of_run (hw : w.all belongs = true) (hrest : rest.head?.any belongs = false) :
    (w ++ rest).takeWhile belongs = w := by
  rw [List.takeWhile_append_of_pos (List.all_eq_true.mp hw)]
  cases rest with
  | nil => simp
  | cons c rest => rw [List.takeWhile_cons_of_neg (by simpa using hrest), List.append_nil]

theorem dropWhile_of_run (hw : w.all belongs = true) (hrest : rest.head?.any belongs = false) :
    (w ++ rest).dropWhile belongs = rest := by
  have hboth := List.takeWhile_append_dropWhile (p := belongs) (l := w ++ rest)
  rw [takeWhile_of_run hw hrest] at hboth
  exact List.append_cancel_left hboth

/-- A run is followed by a character that does not belong to it, if by any. -/
theorem any_head?_dropWhile (belongs : Char → Bool) (cs : List Char) :
    (cs.dropWhile belongs).head?.any belongs = false := by
  cases hhead : (cs.dropWhile belongs).head? with
  | none => rfl
  | some d =>
    have hd := List.head?_dropWhile_not belongs cs
    rw [hhead] at hd
    simpa using hd

theorem exists_run {c : Char} (hc : belongs c = true) (cs : List Char) :
    ∃ w rest, c :: cs = w ++ rest ∧ w ≠ [] ∧ w.all belongs = true ∧
      rest.head?.any belongs = false := by
  refine ⟨(c :: cs).takeWhile belongs, (c :: cs).dropWhile belongs,
    List.takeWhile_append_dropWhile.symm, ?_, List.all_takeWhile, any_head?_dropWhile belongs _⟩
  rw [List.takeWhile_cons_of_pos hc]
  exact List.cons_ne_nil _ _

end

theorem mem_of_mem_runs {belongs : Char → Bool} {cs w : List Char} (hw : w ∈ runs belongs cs)
    {c : Char} (hc : c ∈ w) : c ∈ cs := by
  obtain ⟨piece, pieces, hsplit, hpiece, -, hpieces⟩ := splitOn_spec (!belongs ·) cs
  have hmem := (List.mem_filter.mp hw).1
  rw [hsplit] at hmem
  rcases List.mem_cons.mp hmem with rfl | hmem
  · exact hpiece.mem hc
  · obtain ⟨-, before, d, after, rfl, -⟩ := hpieces w hmem
    simp [hc]

theorem any_isDigit_of_mem_runs {cs w : List Char} (hcs : cs.all isNumeral = true)
    (hw : w ∈ runs isWord cs) : w.any isDigit = true := by
  obtain ⟨hne, hword⟩ := mem_runs hw
  obtain ⟨c, hc⟩ := List.exists_mem_of_ne_nil w hne
  apply List.any_eq_true.mpr
  refine ⟨c, hc, ?_⟩
  have hnumeral := List.all_eq_true.mp hcs c (mem_of_mem_runs hw hc)
  simp only [isNumeral, Bool.or_eq_true, beq_iff_eq] at hnumeral
  rcases hnumeral with (hdigit | rfl) | rfl
  · exact hdigit
  · cases hword _ hc
  · cases hword _ hc

theorem mem_runs_digits_append {digits w v : List Char} (hdigits : digits.all isDigit = true)
    (hw : w.all isWord = true) (hv : v ∈ runs isWord (digits ++ w)) :
    v ∈ runs isWord w ∨ v.any isDigit = true := by
  cases digits with
  | nil => exact .inl hv
  | cons d rest =>
    have hall : (d :: rest ++ w).all isWord = true := by
      rw [List.all_append, hw, Bool.and_true]
      exact List.all_eq_true.mpr fun c hc => isWord_of_digit (List.all_eq_true.mp hdigits c hc)
    rw [runs_eq_singleton (by simp) hall, List.mem_singleton] at hv
    rw [hv]
    exact .inr (by simp [(Bool.and_eq_true_iff.mp hdigits).1])

/-- The characters of an amount end in digits, if any, that go on with the text after them. -/
theorem mem_runs_numerals_append {numerals : List Char} (h : numerals.all isNumeral = true)
    (cs : List Char) : ∃ digits, digits.all isDigit = true ∧
      ∀ v ∈ runs isWord (numerals ++ cs),
        v.any isDigit = true ∨ v ∈ runs isWord (digits ++ cs) := by
  induction numerals using List.reverseRecOn generalizing cs with
  | nil => exact ⟨[], rfl, fun v hv => .inr hv⟩
  | append_singleton start x ih =>
    rw [List.all_append, Bool.and_eq_true] at h
    obtain ⟨hstart, hx⟩ := h
    cases hdigit : isDigit x with
    | true =>
      obtain ⟨digits, hdigits, hruns⟩ := ih hstart (x :: cs)
      refine ⟨digits ++ [x], by simp [hdigits, hdigit], fun v hv => ?_⟩
      rw [List.append_assoc] at hv ⊢
      exact hruns v hv
    | false =>
      have hmark : x = ',' ∨ x = '.' := by simpa [isNumeral, hdigit] using hx
      have hgap : isWord x = false := by rcases hmark with rfl | rfl <;> decide
      refine ⟨[], rfl, fun v hv => ?_⟩
      rw [List.append_assoc, List.singleton_append, runs_append_cons hgap] at hv
      rcases List.mem_append.mp hv with hv | hv
      · exact .inl (any_isDigit_of_mem_runs hstart hv)
      · exact .inr hv

/-- The step takes whole words for another one, and every word that is meant. -/
structure TakesWords (step : Step) (IsMeant : List Char → Prop) (other : List Char) : Prop where
  whole {before : Option Char} {cs : List Char} {taken : Nat} {replacement : List Char}
    (h : step before cs = some (taken, replacement)) : replacement = other ∧
      wordAt before = false ∧ ∃ w rest, cs = w ++ rest ∧ taken = w.length ∧ w ≠ [] ∧
        w.all isWord = true ∧ wordAt rest.head? = false
  meant {before : Option Char} {w rest : List Char} (hbefore : wordAt before = false)
    (hne : w ≠ []) (hw : w.all isWord = true) (hrest : wordAt rest.head? = false)
    (hmeant : IsMeant w) : step before (w ++ rest) ≠ none

namespace TakesWords

variable {step : Step} {IsMeant : List Char → Prop} {other : List Char}

/-- Inside of a word nothing is taken. -/
theorem replaceFrom_inside (h : TakesWords step IsMeant other) {before : Option Char}
    (hbefore : wordAt before = true) {w : List Char} (hw : w.all isWord = true)
    (rest : List Char) :
    replaceFrom step 0 before (w ++ rest) =
      w ++ replaceFrom step 0 (w.getLast?.or before) rest := by
  induction w generalizing before with
  | nil => rfl
  | cons c w ih =>
    obtain ⟨hc, hw⟩ := Bool.and_eq_true_iff.mp hw
    have hnone : step before (c :: (w ++ rest)) = none := by
      cases hstep : step before (c :: (w ++ rest)) with
      | none => rfl
      | some found =>
        have hout := (h.whole hstep).2.1
        rw [hbefore] at hout
        cases hout
    have hword : wordAt (some c) = true := hc
    rw [List.cons_append, replaceFrom_of_none hnone, ih hword hw, getLast?_or_some c w before,
      List.cons_append]

theorem replaceFrom_word (h : TakesWords step IsMeant other) {before : Option Char}
    (hbefore : wordAt before = false) {w rest : List Char} (hne : w ≠ [])
    (hw : w.all isWord = true) (hrest : wordAt rest.head? = false) :
    ∃ w', replaceFrom step 0 before (w ++ rest) = w' ++ replaceFrom step 0 w.getLast? rest ∧
      (w' = other ∨ w' = w ∧ ¬IsMeant w) := by
  cases hstep : step before (w ++ rest) with
  | none =>
    obtain ⟨c, more, rfl⟩ := List.exists_cons_of_ne_nil hne
    obtain ⟨hc, hmore⟩ := Bool.and_eq_true_iff.mp hw
    have hword : wordAt (some c) = true := hc
    refine ⟨c :: more, ?_, .inr ⟨rfl, fun hmeant => h.meant hbefore hne hw hrest hmeant hstep⟩⟩
    rw [List.cons_append] at hstep ⊢
    rw [replaceFrom_of_none hstep, h.replaceFrom_inside hword hmore, getLast?_or_some c more none,
      Option.or_none, List.cons_append]
  | some found =>
    obtain ⟨taken, replacement⟩ := found
    obtain ⟨rfl, -, w', rest', hsplit, rfl, hne', hw', hrest'⟩ := h.whole hstep
    have hsame : w' = w := by
      rw [← takeWhile_of_run hw' hrest', ← hsplit, takeWhile_of_run hw hrest]
    rw [hsame] at hstep
    exact ⟨replacement, replaceFrom_of_some hne hstep, .inl rfl⟩

theorem replaceFrom_gap (h : TakesWords step IsMeant other) (before : Option Char) {c : Char}
    (hc : isWord c = false) (rest : List Char) :
    replaceFrom step 0 before (c :: rest) = c :: replaceFrom step 0 (some c) rest := by
  apply replaceFrom_of_none
  cases hstep : step before (c :: rest) with
  | none => rfl
  | some found =>
    obtain ⟨-, -, w, more, hsplit, -, hne, hw, -⟩ := h.whole hstep
    obtain ⟨d, w, rfl⟩ := List.exists_cons_of_ne_nil hne
    cases hsplit
    rw [List.all_cons, hc] at hw
    cases hw

/-- Among the words of the new text are no others than the one that comes in and those that are not
meant. -/
theorem mem_runs_replaceFrom (h : TakesWords step IsMeant other) (hother : other ≠ [])
    (hwords : other.all isWord = true) {before : Option Char} {cs : List Char}
    (hplace : wordAt before = false ∨ wordAt cs.head? = false) {v : List Char}
    (hv : v ∈ runs isWord (replaceFrom step 0 before cs)) :
    v = other ∨ v ∈ runs isWord cs ∧ ¬IsMeant v := by
  induction hn : cs.length using Nat.strongRecOn generalizing before cs with
  | _ n ih =>
    cases cs with
    | nil => cases hv
    | cons c rest =>
      rw [List.length_cons] at hn
      cases hc : isWord c with
      | false =>
        rw [h.replaceFrom_gap before hc, runs_cons hc] at hv
        have hgap : wordAt (some c) = false := hc
        rw [runs_cons hc]
        exact ih _ (by omega) (.inl hgap) hv rfl
      | true =>
        have hbefore : wordAt before = false := by
          rcases hplace with hbefore | hhead
          · exact hbefore
          · rw [List.head?_cons, wordAt, Option.any_some, hc] at hhead
            cases hhead
        -- the whole word, and the text after it
        obtain ⟨w, more, hsplit, hne, hw, hmore⟩ := exists_run hc rest
        obtain ⟨w', hout, hw'⟩ := h.replaceFrom_word hbefore hne hw hmore
        have hrun : w' ≠ [] ∧ w'.all isWord = true := by
          rcases hw' with rfl | ⟨rfl, -⟩
          · exact ⟨hother, hwords⟩
          · exact ⟨hne, hw⟩
        have hgap : (replaceFrom step 0 w.getLast? more).head?.any isWord = false := by
          cases more with
          | nil => rfl
          | cons d more =>
            rw [h.replaceFrom_gap _ hmore]
            exact hmore
        have hlength := congrArg List.length hsplit
        have hpos := List.length_pos_iff.mpr hne
        rw [List.length_cons, List.length_append] at hlength
        rw [hsplit, hout, runs_append_run hrun.1 hrun.2 hgap] at hv
        rw [hsplit, runs_append_run hne hw hmore]
        rcases List.mem_cons.mp hv with rfl | hv
        · rcases hw' with rfl | ⟨rfl, hmeant⟩
          · exact .inl rfl
          · exact .inr ⟨List.mem_cons_self, hmeant⟩
        · rcases ih _ (by omega) (.inr hmore) hv rfl with hv | ⟨hv, hmeant⟩
          · exact .inl hv
          · exact .inr ⟨List.mem_cons_of_mem _ hv, hmeant⟩

end TakesWords

end SalesDesk.Text
