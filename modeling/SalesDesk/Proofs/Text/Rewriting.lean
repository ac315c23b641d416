import SalesDesk.Text.Replace

/-!
Texts rewritten by a step: a relation that follows the text piece by piece, each piece being kept or
taken as a whole.
-/
namespace SalesDesk.Text

/-- A text after a character, and what a step makes of it. -/
inductive Rewritten (step : Step) : Option Char → List Char → List Char → Prop
  | done {before : Option Char} : Rewritten step before [] []
  | keep {before : Option Char} {c : Char} {rest out : List Char}
      (hstep : step before (c :: rest) = none) (h : Rewritten step (some c) rest out) :
    Rewritten step before (c :: rest) (c :: out)
  | take {before : Option Char} {piece replacement rest out : List Char} (hpiece : piece ≠ [])
      (hstep : step before (piece ++ rest) = some (piece.length, replacement))
      (h : Rewritten step piece.getLast? rest out) :
    Rewritten step before (piece ++ rest) (replacement ++ out)

/-- A step takes at least one character, and none that is not there. -/
def Step.Takes (step : Step) : Prop :=
  ∀ before cs taken replacement, step before cs = some (taken, replacement) →
    ∃ piece rest, cs = piece ++ rest ∧ piece ≠ [] ∧ taken = piece.length

theorem getLast?_or_some (c : Char) (cs : List Char) (before : Option Char) :
    cs.getLast?.or (some c) = (c :: cs).getLast?.or before := by
  cases cs <;> simp [List.getLast?_cons]

section
variable {step : Step}

theorem replaceFrom_append (before : Option Char) (piece rest : List Char) :
    replaceFrom step piece.length before (piece ++ rest) =
      replaceFrom step 0 (piece.getLast?.or before) rest := by
  induction piece generalizing before with
  | nil => rfl
  | cons c piece ih =>
    rw [List.length_cons, List.cons_append, replaceFrom, if_pos (Nat.succ_pos _),
      Nat.add_sub_cancel, ih, getLast?_or_some c piece before]

theorem replaceFrom_of_none {before : Option Char} {c : Char} {rest : List Char}
    (h : step before (c :: rest) = none) :
    replaceFrom step 0 before (c :: rest) = c :: replaceFrom step 0 (some c) rest := by
  rw [replaceFrom, if_neg (Nat.lt_irrefl 0), h]

theorem replaceFrom_of_some {before : Option Char} {piece rest replacement : List Char}
    (hpiece : piece ≠ []) (h : step before (piece ++ rest) = some (piece.length, replacement)) :
    replaceFrom step 0 before (piece ++ rest) =
      replacement ++ replaceFrom step 0 piece.getLast? rest := by
  obtain ⟨c, piece, rfl⟩ := List.exists_cons_of_ne_nil hpiece
  rw [List.cons_append] at h ⊢
  rw [replaceFrom, if_neg (Nat.lt_irrefl 0), h]
  change replacement ++ replaceFrom step ((c :: piece).length - 1) (some c) (piece ++ rest) = _
  rw [List.length_cons, Nat.add_sub_cancel, replaceFrom_append, getLast?_or_some c piece none,
    Option.or_none]

theorem rewritten_replaceFrom (h : step.Takes) (before : Option Char) (cs : List Char) :
    Rewritten step before cs (replaceFrom step 0 before cs) := by
  induction hn : cs.length using Nat.strongRecOn generalizing before cs with
  | _ n ih =>
    cases cs with
    | nil => exact .done
    | cons c rest =>
      rw [List.length_cons] at hn
      cases hstep : step before (c :: rest) with
      | none =>
        rw [replaceFrom_of_none hstep]
        exact .keep hstep (ih _ (by omega) _ rest rfl)
      | some found =>
        obtain ⟨taken, replacement⟩ := found
        obtain ⟨piece, more, hsplit, hpiece, rfl⟩ := h _ _ _ _ hstep
        have hlength := congrArg List.length hsplit
        rw [List.length_cons, List.length_append] at hlength
        have hpos := List.length_pos_iff.mpr hpiece
        rw [hsplit] at hstep ⊢
        rw [replaceFrom_of_some hpiece hstep]
        exact .take hpiece hstep (ih _ (by omega) _ more rfl)

theorem rewritten_replace (h : step.Takes) (cs : List Char) :
    Rewritten step none cs (replace step cs) := rewritten_replaceFrom h none cs

end

end SalesDesk.Text
