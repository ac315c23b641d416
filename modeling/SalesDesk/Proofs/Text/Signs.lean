import SalesDesk.Proofs.Text.Classes
import Mathlib.Data.List.TakeWhile

/-! Texts with a sign before a digit, and what such a text may lose or get at its ends. -/
namespace SalesDesk.Text

def opens (cs : List Char) : Bool := (cs.dropWhile isBlank).head?.any isDigit

/-- Somewhere the sign stands before a digit, with blanks between them, if any. -/
def signed (sign : Char) : List Char → Bool
  | [] => false
  | c :: rest => c == sign && opens rest || signed sign rest

theorem eq_false_of_imp {a b : Bool} (h : b = true → a = true) (ha : a = false) : b = false :=
  Bool.eq_false_iff.mpr (mt h (by simp [ha]))

section
variable {sign : Char} {xs ys : List Char}

theorem opens_cons_of_blank {c : Char} (h : isBlank c = true) (cs : List Char) :
    opens (c :: cs) = opens cs := by
  rw [opens, List.dropWhile_cons_of_pos h, opens]

theorem opens_cons_of_not_blank {c : Char} (h : isBlank c = false) (cs : List Char) :
    opens (c :: cs) = isDigit c := by
  rw [opens, List.dropWhile_cons_of_neg (by simp [h])]
  rfl

theorem opens_append (h : xs.any (!isBlank ·) = true) (ys : List Char) :
    opens (xs ++ ys) = opens xs := by
  induction xs with
  | nil => cases h
  | cons c rest ih =>
    cases hc : isBlank c with
    | true =>
      have hrest : rest.any (!isBlank ·) = true := by simpa [hc] using h
      rw [List.cons_append, opens_cons_of_blank hc, opens_cons_of_blank hc, ih hrest]
    | false => rw [List.cons_append, opens_cons_of_not_blank hc, opens_cons_of_not_blank hc]

theorem opens_append_left (h : opens xs = true) (ys : List Char) : opens (xs ++ ys) = true := by
  cases hany : xs.any (!isBlank ·) with
  | true => rw [opens_append hany, h]
  | false =>
    have hblanks : ∀ c ∈ xs, isBlank c = true := by simpa using hany
    rw [opens, List.dropWhile_eq_nil_iff.mpr hblanks] at h
    cases h

theorem opens_of_append (hys : opens ys = false) (h : opens (xs ++ ys) = true) :
    opens xs = true := by
  cases hany : xs.any (!isBlank ·) with
  | true => rwa [opens_append hany] at h
  | false =>
    have hblanks : ∀ c ∈ xs, isBlank c = true := by simpa using hany
    rw [opens, List.dropWhile_append_of_pos hblanks, ← opens, hys] at h
    cases h

theorem exists_digit_of_opens (h : opens xs = true) : ∃ d ∈ xs, isDigit d = true := by
  induction xs with
  | nil => cases h
  | cons c rest ih =>
    cases hc : isBlank c with
    | true =>
      rw [opens_cons_of_blank hc] at h
      obtain ⟨d, hd, hdigit⟩ := ih h
      exact ⟨d, List.mem_cons_of_mem c hd, hdigit⟩
    | false =>
      rw [opens_cons_of_not_blank hc] at h
      exact ⟨c, List.mem_cons_self, h⟩

theorem signed_append_right (h : signed sign ys = true) (xs : List Char) :
    signed sign (xs ++ ys) = true := by
  induction xs with
  | nil => exact h
  | cons c rest ih => exact Bool.or_eq_true_iff.mpr (.inr ih)

theorem signed_append_left (h : signed sign xs = true) (ys : List Char) :
    signed sign (xs ++ ys) = true := by
  induction xs with
  | nil => cases h
  | cons c rest ih =>
    rcases Bool.or_eq_true_iff.mp h with h | h
    · obtain ⟨hc, hopens⟩ := Bool.and_eq_true_iff.mp h
      rw [List.cons_append, signed, hc, opens_append_left hopens]
      rfl
    · exact Bool.or_eq_true_iff.mpr (.inr (ih h))

theorem signed_append_of_not_mem (h : sign ∉ xs) (ys : List Char) :
    signed sign (xs ++ ys) = signed sign ys := by
  induction xs with
  | nil => rfl
  | cons c rest ih =>
    obtain ⟨hc, hrest⟩ := not_or.mp (mt List.mem_cons.mpr h)
    have hne : (c == sign) = false := beq_eq_false_iff_ne.mpr (Ne.symm hc)
    rw [List.cons_append, signed, ih hrest, hne]
    rfl

theorem signed_of_append (hopens : opens ys = false) (hys : signed sign ys = false)
    (h : signed sign (xs ++ ys) = true) : signed sign xs = true := by
  induction xs with
  | nil =>
    rw [List.nil_append, hys] at h
    cases h
  | cons c rest ih =>
    rcases Bool.or_eq_true_iff.mp h with h | h
    · obtain ⟨hc, hrest⟩ := Bool.and_eq_true_iff.mp h
      rw [signed, hc, opens_of_append hopens hrest]
      rfl
    · exact Bool.or_eq_true_iff.mpr (.inr (ih h))

theorem signed_filter (hsign : isBlank sign = false) (cs : List Char) :
    signed sign (cs.filter (!isBlank ·)) = signed sign cs := by
  have hopens : ∀ cs : List Char, opens (cs.filter (!isBlank ·)) = opens cs := by
    intro cs
    induction cs with
    | nil => rfl
    | cons c rest ih =>
      cases hc : isBlank c with
      | true => rw [List.filter_cons_of_neg (by simp [hc]), ih, opens_cons_of_blank hc]
      | false =>
        rw [List.filter_cons_of_pos (by simp [hc]), opens_cons_of_not_blank hc,
          opens_cons_of_not_blank hc]
  induction cs with
  | nil => rfl
  | cons c rest ih =>
    cases hc : isBlank c with
    | true =>
      have hne : (c == sign) = false := by
        apply beq_eq_false_iff_ne.mpr
        rintro rfl
        rw [hsign] at hc
        cases hc
      rw [List.filter_cons_of_neg (by simp [hc]), ih, signed, hne]
      rfl
    | false => rw [List.filter_cons_of_pos (by simp [hc]), signed, signed, hopens, ih]

theorem signed_of_parts {before blanks after : List Char} {d : Char}
    (hblanks : blanks.all isBlank = true) (hd : isDigit d = true) :
    signed sign (before ++ sign :: (blanks ++ d :: after)) = true := by
  apply signed_append_right
  have hopens : opens (blanks ++ d :: after) = true := by
    rw [opens, List.dropWhile_append_of_pos (List.all_eq_true.mp hblanks), ← opens,
      opens_cons_of_not_blank (not_isBlank_of_isDigit hd), hd]
  rw [signed, hopens, beq_self_eq_true]
  rfl

end

end SalesDesk.Text
