import SalesDesk.Proofs.Text.Joined

/-! Classes of characters that small letters neither make nor take away, and what is read off a
text by such a class alone. -/
namespace SalesDesk.Text

def smallForm (before : List Char) (c : Char) (after : List Char) : List Char :=
  if c == 'Σ' then [lowerSigma before after] else lowerChar c

theorem lowerFrom_cons (before : List Char) (c : Char) (rest : List Char) :
    lowerFrom before (c :: rest) = smallForm before c rest ++ lowerFrom (c :: before) rest := rfl

/-- The characters of the class are their own small forms, and no other character has one of them
in its small form. -/
structure Caseless (belongs : Char → Bool) : Prop where
  smallForm_of_mem : ∀ {before c after}, belongs c = true → smallForm before c after = [c]
  of_mem_smallForm : ∀ {before c after d}, d ∈ smallForm before c after → belongs d = belongs c

theorem smallForm_ne_nil (before : List Char) (c : Char) (after : List Char) :
    smallForm before c after ≠ [] := by
  unfold smallForm
  split
  · exact List.cons_ne_nil _ _
  · exact lowerChar_ne_nil c

section
variable {belongs : Char → Bool}

/-- Any number of separators, but at least one, part a text from what follows. -/
theorem splitOn_append_of_separators {separates : Char → Bool} {marks : List Char}
    (hne : marks ≠ []) (hmarks : ∀ c ∈ marks, separates c = true) (cs : List Char) :
    ∃ gaps, splitOn separates (marks ++ cs) = [] :: gaps ++ splitOn separates cs ∧
      ∀ gap ∈ gaps, gap = [] := by
  induction marks with
  | nil => exact absurd rfl hne
  | cons c rest ih =>
    obtain ⟨hc, hrest⟩ := List.forall_mem_cons.mp hmarks
    have hcons := splitOn_append_cons hc [] (rest ++ cs)
    rw [List.nil_append] at hcons
    rw [List.cons_append, hcons]
    cases rest with
    | nil => exact ⟨[], rfl, nofun⟩
    | cons d rest =>
      obtain ⟨gaps, hsplit, hgaps⟩ := ih (List.cons_ne_nil _ _) hrest
      rw [hsplit]
      exact ⟨[] :: gaps, rfl, List.forall_mem_cons.mpr ⟨rfl, hgaps⟩⟩

namespace Caseless

/-- The first piece of a text that is split at the characters outside the class stays as it is, and
of the others only empty ones come or go. -/
theorem splitOn_lowerFrom (h : Caseless belongs) (before cs : List Char) :
    ∃ piece pieces pieces', splitOn (!belongs ·) cs = piece :: pieces ∧
      splitOn (!belongs ·) (lowerFrom before cs) = piece :: pieces' ∧
      pieces'.filter (!·.isEmpty) = pieces.filter (!·.isEmpty) := by
  induction cs generalizing before with
  | nil => exact ⟨[], [], [], rfl, rfl, rfl⟩
  | cons c rest ih =>
    obtain ⟨piece, pieces, pieces', hsplit, hsplit', hfilter⟩ := ih (c :: before)
    rw [lowerFrom_cons]
    cases hc : belongs c with
    | true =>
      rw [h.smallForm_of_mem hc, List.singleton_append, splitOn, splitOn, hsplit, hsplit']
      exact ⟨c :: piece, pieces, pieces', by simp [hc], by simp [hc], hfilter⟩
    | false =>
      have hmarks : ∀ d ∈ smallForm before c rest, (!belongs d) = true := by
        intro d hd
        rw [h.of_mem_smallForm hd, hc]
        rfl
      obtain ⟨gaps, hgaps, hempty⟩ := splitOn_append_of_separators
        (smallForm_ne_nil before c rest) hmarks (lowerFrom (c :: before) rest)
      refine ⟨[], piece :: pieces, gaps ++ piece :: pieces', by simp [splitOn, hsplit, hc], ?_, ?_⟩
      · rw [hgaps, hsplit', List.cons_append]
      · have hnone : gaps.filter (!·.isEmpty) = [] :=
          List.filter_eq_nil_iff.mpr fun gap hgap => by simp [hempty gap hgap]
        rw [List.filter_append, hnone, List.nil_append, List.filter_cons, List.filter_cons, hfilter]

theorem runs_lower (h : Caseless belongs) (text : String) :
    runs belongs (lower text).toList = runs belongs text.toList := by
  obtain ⟨piece, pieces, pieces', hsplit, hsplit', hfilter⟩ := h.splitOn_lowerFrom [] text.toList
  rw [lower, String.toList_ofList, runs, runs, hsplit, hsplit', List.filter_cons,
    List.filter_cons, hfilter]

theorem all_smallForm (h : Caseless belongs) (before : List Char) (c : Char) (after : List Char) :
    (smallForm before c after).all belongs = belongs c := by
  cases hc : belongs c with
  | true => simp [h.smallForm_of_mem hc, hc]
  | false =>
    obtain ⟨d, hd⟩ := List.exists_mem_of_ne_nil _ (smallForm_ne_nil before c after)
    apply List.all_eq_false.mpr
    exact ⟨d, hd, by simp [h.of_mem_smallForm hd, hc]⟩

theorem all_lower (h : Caseless belongs) (text : String) :
    (lower text).toList.all belongs = text.toList.all belongs := by
  have hfrom : ∀ before cs, (lowerFrom before cs).all belongs = cs.all belongs := by
    intro before cs
    induction cs generalizing before with
    | nil => rfl
    | cons c rest ih =>
      rw [lowerFrom_cons, List.all_append, h.all_smallForm, ih, List.all_cons]
  rw [lower, String.toList_ofList, hfrom]

end Caseless

end

def isApart (ranges : List (Nat × Nat)) (first last : Nat) : Bool :=
  ranges.all fun r => last.blt r.1 || r.2.blt first

def noCaseIn (ranges : List (Nat × Nat)) : Bool :=
  !inRanges ranges 0 &&
  ((List.range 128).all fun code =>
    let small := (Char.ofNat code).toLower.toNat
    small == code || !inRanges ranges code && !inRanges ranges small) &&
  (lowerShifts.all fun s => isApart ranges s.first s.last &&
    isApart ranges (Int.toNat (s.first + s.offset)) (Int.toNat (s.last + s.offset))) &&
  (lowerSpecials.all fun special => (special.1 :: special.2).all (!inRanges ranges ·)) &&
  ['Σ', 'σ', 'ς'].all (!inRanges ranges ·.toNat)

section
variable {ranges : List (Nat × Nat)}

theorem inRanges_of_isApart {first last code : Nat} (h : isApart ranges first last = true)
    (hfirst : first ≤ code) (hlast : code ≤ last) : inRanges ranges code = false := by
  apply List.any_eq_false.mpr
  intro r hr
  have hr := List.all_eq_true.mp h r hr
  simp only [Bool.or_eq_true, Nat.blt_eq] at hr
  simp only [Bool.and_eq_true, decide_eq_true_eq]
  omega

theorem toNat_ofNat_of_valid {code : Nat} (h : code.isValidChar) :
    (Char.ofNat code).toNat = code := by
  have hvalid : Char.ofNat code = Char.ofNatAux code h := dif_pos h
  rw [hvalid]
  rfl

theorem toNat_ofNat_eq (code : Nat) :
    (Char.ofNat code).toNat = code ∨ (Char.ofNat code).toNat = 0 := by
  by_cases h : code.isValidChar
  · exact .inl (toNat_ofNat_of_valid h)
  · have hnone : Char.ofNat code = '\x00' := dif_neg h
    right
    rw [hnone]
    rfl

theorem inRanges_ofNat (hzero : inRanges ranges 0 = false) {code : Nat}
    (h : inRanges ranges code = false) : inRanges ranges (Char.ofNat code).toNat = false := by
  rcases toNat_ofNat_eq code with hcode | hcode
  · rw [hcode, h]
  · rw [hcode, hzero]

/-- What the table of shifts does with a character. -/
theorem shift?_cases (c : Char) : shift? lowerShifts c = none ∨
    ∃ s ∈ lowerShifts, s.first ≤ c.toNat ∧ c.toNat ≤ s.last ∧
      shift? lowerShifts c = some (Char.ofNat (Int.toNat (c.toNat + s.offset))) := by
  unfold shift?
  cases hfind : lowerShifts.find? fun s =>
      s.first ≤ c.toNat && c.toNat ≤ s.last && (c.toNat - s.first) % s.stride == 0 with
  | none => exact .inl rfl
  | some s =>
    have hs := List.find?_some hfind
    simp only [Bool.and_eq_true, decide_eq_true_eq] at hs
    exact .inr ⟨s, List.mem_of_find?_eq_some hfind, hs.1.1, hs.1.2, rfl⟩

/-- A small form is the character itself, or neither of them has a code in the ranges. -/
theorem lowerChar_cases (h : noCaseIn ranges = true) (c : Char) : lowerChar c = [c] ∨
    inRanges ranges c.toNat = false ∧ ∀ d ∈ lowerChar c, inRanges ranges d.toNat = false := by
  simp only [noCaseIn, Bool.and_eq_true] at h
  obtain ⟨⟨⟨⟨hzero, hascii⟩, hshifts⟩, hspecials⟩, -⟩ := h
  have hzero : inRanges ranges 0 = false := by simpa using hzero
  unfold lowerChar
  split
  · rename_i hsmall
    have hcode := List.all_eq_true.mp hascii c.toNat (List.mem_range.mpr hsmall)
    rw [Char.ofNat_toNat] at hcode
    rcases Bool.or_eq_true_iff.mp hcode with hsame | hout
    · have hself : c.toLower = c := Char.toNat_inj.mp (eq_of_beq hsame)
      exact .inl (by rw [hself])
    · obtain ⟨hout, hout'⟩ := Bool.and_eq_true_iff.mp hout
      exact .inr ⟨by simpa using hout, by simpa using hout'⟩
  · unfold changed
    split
    · rename_i codes hcodes
      obtain ⟨before, after, htable, -⟩ := List.lookup_eq_some_iff.mp hcodes
      have hspecial := List.all_eq_true.mp hspecials (c.toNat, codes) (by simp [htable])
      rw [List.all_cons, Bool.and_eq_true] at hspecial
      refine .inr ⟨by simpa using hspecial.1, List.forall_mem_map.mpr fun code hcode => ?_⟩
      exact inRanges_ofNat hzero (by simpa using List.all_eq_true.mp hspecial.2 code hcode)
    · rcases shift?_cases c with hnone | ⟨s, hs, hfirst, hlast, hsome⟩
      · exact .inl (by rw [hnone]; rfl)
      · obtain ⟨hapart, hapart'⟩ := Bool.and_eq_true_iff.mp (List.all_eq_true.mp hshifts s hs)
        have hout := inRanges_of_isApart hapart hfirst hlast
        have hout' : inRanges ranges (Int.toNat (c.toNat + s.offset)) = false :=
          inRanges_of_isApart hapart' (by omega) (by omega)
        rw [hsome]
        exact .inr ⟨hout, List.forall_mem_singleton.mpr (inRanges_ofNat hzero hout')⟩

theorem caseless_of_ranges (h : noCaseIn ranges = true) :
    Caseless fun c => inRanges ranges c.toNat := by
  have hsigmas := (Bool.and_eq_true_iff.mp h).2
  simp only [List.all_cons, List.all_nil, Bool.and_true, Bool.and_eq_true,
    Bool.not_eq_true'] at hsigmas
  obtain ⟨hcapital, hsmall, hfinal⟩ := hsigmas
  constructor
  · intro before c after hc
    have hsigma : c ≠ 'Σ' := by
      rintro rfl
      rw [hcapital] at hc
      cases hc
    rw [smallForm, if_neg (by simpa using hsigma)]
    exact (lowerChar_cases h c).resolve_right fun hout => absurd hc (by simp [hout.1])
  · intro before c after d hd
    unfold smallForm at hd
    split at hd
    · rename_i hsigma
      obtain rfl := eq_of_beq hsigma
      rw [List.mem_singleton.mp hd, hcapital, lowerSigma]
      split
      · exact hfinal
      · exact hsmall
    · rcases lowerChar_cases h c with hself | ⟨hout, hout'⟩
      · rw [hself] at hd
        rw [List.mem_singleton.mp hd]
      · rw [hout, hout' d hd]

end

def digitRanges : List (Nat × Nat) := (0x30, 0x39) :: digitZeros.map fun z => (z, z + 9)

theorem noCaseIn_ranges : noCaseIn blankRanges = true ∧ noCaseIn digitRanges = true := by
  decide +kernel

theorem caseless_isBlank : Caseless isBlank := caseless_of_ranges noCaseIn_ranges.1

theorem isDigit_eq_inRanges (c : Char) : isDigit c = inRanges digitRanges c.toNat := by
  have hranges : inRanges digitRanges c.toNat = (decide (0x30 ≤ c.toNat ∧ c.toNat ≤ 0x39) ||
      digitZeros.any fun z => z ≤ c.toNat && c.toNat < z + 10) := by
    simp [inRanges, digitRanges, List.any_map, Function.comp_def, Nat.lt_succ_iff]
  rw [hranges, isDigit, digitValue?]
  split
  · rename_i hascii
    have habove : ∀ z ∈ digitZeros, 128 ≤ z := by decide
    have hnone : (digitZeros.any fun z => z ≤ c.toNat && c.toNat < z + 10) = false := by
      apply List.any_eq_false.mpr
      intro z hz
      have hz := habove z hz
      simp only [Bool.and_eq_true, decide_eq_true_eq]
      omega
    have hdigit : c.isDigit = decide (0x30 ≤ c.toNat ∧ c.toNat ≤ 0x39) := by
      rw [Char.isDigit, Bool.decide_and]
      rfl
    rw [hnone, Bool.or_false, ← hdigit]
    cases c.isDigit <;> rfl
  · rename_i hascii
    have hnot : decide (0x30 ≤ c.toNat ∧ c.toNat ≤ 0x39) = false := by
      simp only [decide_eq_false_iff_not]
      omega
    rw [Option.isSome_map, List.isSome_find?, hnot, Bool.false_or]

theorem caseless_isDigit : Caseless isDigit := by
  have hranges : isDigit = fun c => inRanges digitRanges c.toNat := funext isDigit_eq_inRanges
  rw [hranges]
  exact caseless_of_ranges noCaseIn_ranges.2

end SalesDesk.Text
