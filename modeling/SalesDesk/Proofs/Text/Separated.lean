import SalesDesk.Proofs.Text.Joined

/-! Texts of parts with a separator between them: what is left without the separators, which parts
are read back between them, and where the parts stand. -/
namespace SalesDesk.Text

section
variable {c : Char} {parts : List (List Char)}

theorem intercalate_concat (hne : parts ≠ []) (last : List Char) :
    [c].intercalate (parts ++ [last]) = [c].intercalate parts ++ c :: last := by
  induction parts with
  | nil => exact absurd rfl hne
  | cons part rest ih =>
    cases rest with
    | nil => simp [List.intercalate]
    | cons next rest =>
      rw [List.cons_append, List.cons_append, List.intercalate_cons_cons, ← List.cons_append,
        ih (by simp), List.intercalate_cons_cons]
      simp

theorem intercalate_between (hne : parts ≠ []) :
    [c].intercalate ([] :: (parts ++ [[]])) = c :: ([c].intercalate parts ++ [c]) := by
  obtain ⟨part, rest, rfl⟩ := List.exists_cons_of_ne_nil hne
  rw [← List.cons_append, intercalate_concat (by simp), List.intercalate_cons_cons]
  rfl

/-- A character that the separator lacks is in the text if it is in a part. -/
theorem not_mem_intercalate_iff {separator : List Char} (h : c ∉ separator) :
    c ∉ separator.intercalate parts ↔ ∀ part ∈ parts, c ∉ part := by
  induction parts with
  | nil => simp
  | cons part rest ih =>
    cases rest with
    | nil => simp
    | cons next rest =>
      rw [List.intercalate_cons_cons, List.mem_append, List.mem_append, or_iff_left h, not_or, ih,
        List.forall_mem_cons (a := part)]

theorem filter_intercalate (h : ∀ part ∈ parts, c ∉ part) :
    ([c].intercalate parts).filter (· != c) = parts.flatten := by
  induction parts with
  | nil => rfl
  | cons part rest ih =>
    obtain ⟨hhead, htail⟩ := List.forall_mem_cons.mp h
    have hrest := ih htail
    have hpart : part.filter (· != c) = part :=
      List.filter_eq_self.mpr fun d hd => bne_iff_ne.mpr fun heq => hhead (heq ▸ hd)
    cases rest with
    | nil => simpa [List.intercalate] using hpart
    | cons next rest =>
      rw [List.intercalate_cons_cons, List.filter_append, List.filter_append, hrest, hpart]
      simp

theorem splitOn_intercalate (hne : parts ≠ []) (h : ∀ part ∈ parts, c ∉ part) :
    splitOn (· == c) ([c].intercalate parts) = parts := by
  have hwhole (part : List Char) (hpart : c ∉ part) : splitOn (· == c) part = [part] :=
    splitOn_eq_singleton (List.any_eq_false.mpr fun d hd heq => hpart (eq_of_beq heq ▸ hd))
  induction parts with
  | nil => exact absurd rfl hne
  | cons part rest ih =>
    obtain ⟨hpart, hrest⟩ := List.forall_mem_cons.mp h
    cases rest with
    | nil => rw [List.intercalate_singleton, hwhole part hpart]
    | cons next rest =>
      have hsplit : splitOn (· == c) (part ++ c :: [c].intercalate (next :: rest)) =
          splitOn (· == c) part ++ splitOn (· == c) ([c].intercalate (next :: rest)) :=
        @splitOn_append_cons c (· == c) (beq_self_eq_true c) part _
      rw [List.intercalate_cons_cons, List.append_assoc, List.singleton_append, hsplit,
        hwhole part hpart, ih (by simp) hrest]
      rfl

theorem length_splitOn (cs : List Char) : (splitOn (· == c) cs).length = cs.count c + 1 := by
  induction cs with
  | nil => rfl
  | cons d rest ih =>
    obtain ⟨piece, pieces, hsplit, -⟩ := splitOn_spec (· == c) rest
    rw [hsplit, List.length_cons] at ih
    rw [splitOn, hsplit, List.count_cons]
    cases hd : d == c with
    | true => simpa [hd] using ih
    | false => simpa [hd] using ih

theorem count_intercalate (hne : parts ≠ []) :
    ([c].intercalate parts).count c + 1 = parts.flatten.count c + parts.length := by
  induction parts with
  | nil => exact absurd rfl hne
  | cons part rest ih =>
    cases rest with
    | nil => simp
    | cons next rest =>
      have hrest := ih (by simp)
      rw [List.intercalate_cons_cons, List.flatten_cons, List.count_append, List.count_append,
        List.count_append, List.count_singleton_self, List.length_cons]
      omega

/-- The parts are told apart only if none of them holds the separator. -/
theorem length_splitOn_intercalate_iff (hne : parts ≠ []) :
    (splitOn (· == c) ([c].intercalate parts)).length = parts.length ↔
      ∀ part ∈ parts, c ∉ part := by
  have hcount := count_intercalate (c := c) hne
  have hnone : parts.flatten.count c = 0 ↔ ∀ part ∈ parts, c ∉ part := by
    rw [List.count_eq_zero, List.mem_flatten]
    simp
  rw [length_splitOn, ← hnone]
  omega

end

/-- Each part stands in the text, whatever the separator is. -/
theorem infix_intercalate (separator : List Char) {parts : List (List Char)} {part : List Char}
    (h : part ∈ parts) : part <:+: separator.intercalate parts := by
  induction parts with
  | nil => cases h
  | cons first rest ih =>
    cases rest with
    | nil =>
      obtain rfl := List.mem_singleton.mp h
      simp
    | cons next rest =>
      rw [List.intercalate_cons_cons, List.append_assoc]
      rcases List.mem_cons.mp h with rfl | h
      · exact (List.prefix_append _ _).isInfix
      · exact (ih h).trans ((List.suffix_append _ _).trans (List.suffix_append _ _)).isInfix

end SalesDesk.Text
