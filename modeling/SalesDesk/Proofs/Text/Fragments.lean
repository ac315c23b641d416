import SalesDesk.Proofs.Text.SmallLetters

/-!
Fragments of texts: where the first one stands, and where one stands in the small letters of a text.
The small letters of a text are those of its characters in a row, but for the sigma at the end of a
word; each character has one, and a capital dotted i has two.
-/
namespace SalesDesk.Text

/-- The fragment stands in the text after so many characters. -/
def StandsAt (fragment : List Char) (i : Nat) (cs : List Char) : Prop :=
  ∃ before after, cs = before ++ (fragment ++ after) ∧ before.length = i

section
variable {fragment cs : List Char} {c : Char} {i : Nat}

theorem standsAt_zero : StandsAt fragment 0 cs ↔ fragment <+: cs := by
  constructor
  · rintro ⟨before, after, rfl, hlength⟩
    rw [List.length_eq_zero_iff.mp hlength]
    exact List.prefix_append _ _
  · rintro ⟨after, rfl⟩
    exact ⟨[], after, rfl, rfl⟩

theorem standsAt_succ : StandsAt fragment (i + 1) (c :: cs) ↔ StandsAt fragment i cs := by
  constructor
  · rintro ⟨_ | ⟨d, before⟩, after, hsplit, hlength⟩
    · cases hlength
    · exact ⟨before, after, List.tail_eq_of_cons_eq hsplit, Nat.succ.inj hlength⟩
  · rintro ⟨before, after, rfl, rfl⟩
    exact ⟨c :: before, after, rfl, rfl⟩

theorem infix_iff_standsAt : fragment <:+: cs ↔ ∃ i, StandsAt fragment i cs := by
  constructor
  · rintro ⟨before, after, rfl⟩
    exact ⟨_, before, after, List.append_assoc .., rfl⟩
  · rintro ⟨i, before, after, rfl, -⟩
    exact ⟨before, after, List.append_assoc ..⟩

/-- A search for a fragment finds one that stands in the text, and none before it. -/
theorem first_of_findPlace? {start : Nat} {before : Option Char}
    (h : findPlace? (fun _ rest => fragment.isPrefixOf rest) start before cs = some i) :
    ∃ j, i = start + j ∧ StandsAt fragment j cs ∧ ∀ k < j, ¬StandsAt fragment k cs := by
  induction cs generalizing start before with
  | nil =>
    rw [findPlace?] at h
    split at h
    · rename_i hhere
      cases h
      exact ⟨0, rfl, standsAt_zero.mpr (List.isPrefixOf_iff_prefix.mp hhere), nofun⟩
    · cases h
  | cons c rest ih =>
    rw [findPlace?] at h
    split at h
    · rename_i hhere
      cases h
      exact ⟨0, rfl, standsAt_zero.mpr (List.isPrefixOf_iff_prefix.mp hhere), nofun⟩
    · rename_i hhere
      obtain ⟨j, rfl, hj, hfirst⟩ := ih h
      refine ⟨j + 1, by omega, standsAt_succ.mpr hj, ?_⟩
      rintro (_ | k) hk
      · exact fun hzero => hhere (List.isPrefixOf_iff_prefix.mpr (standsAt_zero.mp hzero))
      · exact mt standsAt_succ.mp (hfirst k (by omega))

theorem isSome_findPlace? (fragment : List Char) (start : Nat) (before : Option Char)
    (cs : List Char) :
    (findPlace? (fun _ rest => fragment.isPrefixOf rest) start before cs).isSome = true ↔
      fragment <:+: cs := by
  induction cs generalizing start before with
  | nil =>
    rw [findPlace?]
    by_cases h : fragment.isPrefixOf [] = true
    · rw [if_pos h]
      exact iff_of_true rfl (List.isPrefixOf_iff_prefix.mp h).isInfix
    · rw [if_neg h]
      refine iff_of_false Bool.false_ne_true fun hpart => h ?_
      rw [List.infix_nil.mp hpart]
      rfl
  | cons c rest ih =>
    rw [findPlace?, List.infix_cons_iff, ← List.isPrefixOf_iff_prefix]
    by_cases h : fragment.isPrefixOf (c :: rest) = true
    · rw [if_pos h]
      exact iff_of_true rfl (.inl h)
    · rw [if_neg h, ih, or_iff_right h]

theorem first_of_indexOf? (h : indexOf? cs fragment = some i) :
    StandsAt fragment i cs ∧ ∀ k < i, ¬StandsAt fragment k cs := by
  obtain ⟨j, rfl, hj⟩ := first_of_findPlace? h
  rwa [Nat.zero_add]

end

theorem hasFragment_iff {text fragment : String} :
    hasFragment text fragment = true ↔ fragment.toList <:+: text.toList :=
  isSome_findPlace? _ _ _ _

section
variable {fragment xs : List Char} {c : Char}

/-- A fragment does not reach over a character that it does not have. -/
theorem infix_append_cons_iff (h : c ∉ fragment) (xs ys : List Char) :
    fragment <:+: xs ++ c :: ys ↔ fragment <:+: xs ∨ fragment <:+: ys := by
  constructor
  · intro hpart
    induction xs with
    | nil =>
      rw [List.nil_append, List.infix_cons_iff] at hpart
      rcases hpart with hhead | hpart
      · cases fragment with
        | nil => exact .inl List.infix_rfl
        | cons d rest =>
          rw [List.cons_prefix_cons] at hhead
          exact absurd List.mem_cons_self (hhead.1 ▸ h)
      · exact .inr hpart
    | cons x xs ih =>
      rw [List.cons_append, List.infix_cons_iff] at hpart
      rcases hpart with hhead | hpart
      · left
        have hwhole : (x :: xs) ++ [c] <+: x :: (xs ++ c :: ys) := ⟨ys, by simp⟩
        rcases List.prefix_or_prefix_of_prefix hhead hwhole with hshort | hlong
        · rcases List.prefix_concat_iff.mp hshort with heq | hshort
          · exact absurd (by simp [heq]) h
          · exact hshort.isInfix
        · exact absurd (hlong.subset (by simp)) h
      · exact (ih hpart).imp_left fun hshort => hshort.trans (List.suffix_cons x xs).isInfix
  · rintro (hpart | hpart)
    · exact hpart.trans (List.prefix_append _ _).isInfix
    · exact hpart.trans ((List.suffix_cons c ys).trans (List.suffix_append xs _)).isInfix

/-- A fragment of the first of two texts stands where it ends no later than this text. -/
theorem infix_left_iff (ys : List Char) :
    fragment <:+: xs ↔ ∃ i, StandsAt fragment i (xs ++ ys) ∧ i + fragment.length ≤ xs.length := by
  constructor
  · rintro ⟨before, after, rfl⟩
    exact ⟨before.length, ⟨before, after ++ ys, by simp, rfl⟩, by simp⟩
  · rintro ⟨i, ⟨before, after, hsplit, rfl⟩, hend⟩
    have hhere : before ++ fragment <+: xs ++ ys := ⟨after, by rw [hsplit, List.append_assoc]⟩
    have hshort : (before ++ fragment).length ≤ xs.length := by rwa [List.length_append]
    have hhead := List.prefix_of_prefix_length_le hhere (List.prefix_append xs ys) hshort
    exact (List.suffix_append before fragment).isInfix.trans hhead.isInfix

end

/-- The small form of a sigma inside a word, also for the one at its end. -/
def plainSigma (c : Char) : Char := if c = 'ς' then 'σ' else c

/-- The small letters of a text, without a form of its own for a sigma at the end of a word. -/
def smallLetters (cs : List Char) : List Char :=
  cs.flatMap fun c => (lowerChar c).map plainSigma

theorem smallLetters_append (xs ys : List Char) :
    smallLetters (xs ++ ys) = smallLetters xs ++ smallLetters ys := List.flatMap_append

theorem smallLetters_of_plain {cs : List Char} (h : ∀ c ∈ cs, isPlain c = true) :
    smallLetters cs = cs := by
  have hself : ∀ c ∈ cs, (lowerChar c).map plainSigma = [c] := by
    intro c hc
    obtain ⟨hascii, hlower⟩ := Bool.and_eq_true_iff.mp (h c hc)
    have hsigma : c ≠ 'ς' := by
      rintro rfl
      exact absurd hascii (by decide)
    rw [lowerChar, if_pos (of_decide_eq_true hascii), eq_of_beq hlower, List.map_singleton,
      plainSigma, if_neg hsigma]
  rw [smallLetters, List.flatMap_def, List.map_congr_left hself, ← List.flatMap_def,
    List.flatMap_singleton']

theorem map_plainSigma_smallForm (before : List Char) (c : Char) (after : List Char) :
    (smallForm before c after).map plainSigma = (lowerChar c).map plainSigma := by
  unfold smallForm
  split
  · rename_i hsigma
    rw [eq_of_beq hsigma, lowerSigma]
    split <;> decide
  · rfl

theorem map_plainSigma_lowerFrom (before cs : List Char) :
    (lowerFrom before cs).map plainSigma = smallLetters cs := by
  induction cs generalizing before with
  | nil => rfl
  | cons c rest ih =>
    rw [lowerFrom_cons, List.map_append, ih, map_plainSigma_smallForm, smallLetters, smallLetters,
      List.flatMap_cons]

/-- A capital dotted i has a small form of two characters, and every other character of one. -/
theorem length_lowerChar (c : Char) : (lowerChar c).length = if c = 'İ' then 2 else 1 := by
  have hspecials : ∀ special ∈ lowerSpecials, special.1 = 'İ'.toNat ∧ special.2.length = 2 := by
    decide
  unfold lowerChar changed
  split
  · rename_i hascii
    have hne : c ≠ 'İ' := by
      rintro rfl
      exact absurd hascii (by decide)
    rw [if_neg hne, List.length_singleton]
  · split
    · rename_i codes hcodes
      obtain ⟨before, after, htable, -⟩ := List.lookup_eq_some_iff.mp hcodes
      obtain ⟨hcode, hlength⟩ := hspecials (c.toNat, codes) (by simp [htable])
      rw [if_pos (Char.toNat_inj.mp hcode), List.length_map, hlength]
    · rename_i hnone
      have hne : c ≠ 'İ' := by
        rintro rfl
        exact absurd hnone (by decide)
      rw [if_neg hne, List.length_singleton]

theorem length_smallLetters (cs : List Char) :
    (smallLetters cs).length = cs.length + cs.count 'İ' := by
  induction cs with
  | nil => rfl
  | cons c rest ih =>
    rw [smallLetters, List.flatMap_cons, List.length_append, List.length_map, length_lowerChar,
      ← smallLetters, ih, List.length_cons, List.count_cons]
    by_cases h : c = 'İ'
    · simp [h]; omega
    · simp [h]; omega

section
variable {fragment cs : List Char} {i : Nat}

/-- The fragment has no small sigma of either form. -/
def Sigmaless (fragment : List Char) : Prop := 'σ' ∉ fragment ∧ 'ς' ∉ fragment

theorem Sigmaless.map_plainSigma (h : Sigmaless fragment) :
    fragment.map plainSigma = fragment := by
  have hsame : ∀ c ∈ fragment, plainSigma c = id c := by
    intro c hc
    refine if_neg ?_
    rintro rfl
    exact h.2 hc
  rw [List.map_congr_left hsame, List.map_id]

theorem Sigmaless.eq_of_map (h : Sigmaless fragment) (hcs : cs.map plainSigma = fragment) :
    cs = fragment := by
  have hsame : ∀ c ∈ cs, plainSigma c = id c := by
    intro c hc
    refine if_neg ?_
    rintro rfl
    exact h.1 (hcs ▸ List.mem_map_of_mem hc)
  rw [← hcs, List.map_congr_left hsame, List.map_id]

theorem standsAt_map_plainSigma (h : Sigmaless fragment) :
    StandsAt fragment i (cs.map plainSigma) ↔ StandsAt fragment i cs := by
  constructor
  · rintro ⟨before, after, hsplit, rfl⟩
    obtain ⟨before', rest, rfl, rfl, hrest⟩ := List.map_eq_append_iff.mp hsplit
    obtain ⟨fragment', after', rfl, hfragment, rfl⟩ := List.map_eq_append_iff.mp hrest
    rw [h.eq_of_map hfragment]
    exact ⟨before', after', rfl, (List.length_map _).symm⟩
  · rintro ⟨before, after, rfl, rfl⟩
    refine ⟨before.map plainSigma, after.map plainSigma, ?_, List.length_map _⟩
    rw [List.map_append, List.map_append, h.map_plainSigma]

theorem standsAt_lower (h : Sigmaless fragment) (text : String) :
    StandsAt fragment i (lower text).toList ↔ StandsAt fragment i (smallLetters text.toList) := by
  rw [← map_plainSigma_lowerFrom [], standsAt_map_plainSigma h, lower, String.toList_ofList]

theorem infix_lower (h : Sigmaless fragment) (text : String) :
    fragment <:+: (lower text).toList ↔ fragment <:+: smallLetters text.toList := by
  simp only [infix_iff_standsAt, standsAt_lower h]

end

end SalesDesk.Text
