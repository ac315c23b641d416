import SalesDesk.Proofs.Text.Fragments
import SalesDesk.Value.Json
import Mathlib.Logic.Basic

/-!
Fragments of texts that are written with escapes. Small letters and escapes can be made in either
order. A fragment without quotes, escaped characters and the digits of an escape can start inside
one, but only with its last character: there the text has another character in place of the first
one of the fragment.
-/
namespace SalesDesk

namespace Text

/-- No character but the null character has it in its small form. -/
theorem ne_null_of_mem_lowerChar {c d : Char} (hc : c ≠ '\x00') (hd : d ∈ lowerChar c) :
    d ≠ '\x00' := by
  have hascii : ((List.range 128).all fun code =>
      (Char.ofNat code).toLower != '\x00' || code == 0) = true := by decide +kernel
  have hspecials : ∀ special ∈ lowerSpecials, ∀ code ∈ special.2, Char.ofNat code ≠ '\x00' := by
    decide
  have hshifts : ∀ s ∈ lowerShifts, 0 < s.first + s.offset ∧
      (s.last + s.offset < 0xd800 ∨
        0xdfff < s.first + s.offset ∧ s.last + s.offset < 0x110000) := by
    decide +kernel
  unfold lowerChar changed at hd
  split at hd
  · rename_i hsmall
    obtain rfl := List.mem_singleton.mp hd
    intro hnull
    have hcode := List.all_eq_true.mp hascii c.toNat (List.mem_range.mpr hsmall)
    rw [Char.ofNat_toNat, hnull] at hcode
    exact hc (Char.toNat_inj.mp (eq_of_beq hcode))
  · split at hd
    · rename_i codes hcodes
      obtain ⟨before, after, htable, -⟩ := List.lookup_eq_some_iff.mp hcodes
      obtain ⟨code, hcode, rfl⟩ := List.mem_map.mp hd
      exact hspecials (c.toNat, codes) (by simp [htable]) code hcode
    · obtain rfl := List.mem_singleton.mp hd
      rcases shift?_cases c with hnone | ⟨s, hs, hfirst, hlast, hsome⟩
      · rwa [hnone]
      · obtain ⟨hpos, hrange⟩ := hshifts s hs
        have hvalid : (Int.toNat (c.toNat + s.offset)).isValidChar := by
          unfold Nat.isValidChar
          omega
        rw [hsome]
        intro hnull
        have hcode := congrArg Char.toNat hnull
        rw [Option.getD_some, toNat_ofNat_of_valid hvalid] at hcode
        have hzero : '\x00'.toNat = 0 := rfl
        omega

end Text

namespace Json

open Text

def escaped (cs : List Char) : List Char := cs.flatMap fun c => (escapedChar c).toList

/-- The codes of the characters that are escaped, but for the null character. -/
def escapedRanges : List (Nat × Nat) := [(0x01, 0x1f), (0x22, 0x22), (0x5c, 0x5c)]

def isEscaped (c : Char) : Bool := c == '\x00' || inRanges escapedRanges c.toNat

def escapedChars : List Char := '\x22' :: '\\' :: (List.range 32).map Char.ofNat

def escapeInners : List (List Char) := [[], ['u', '0', '0', '0'], ['u', '0', '0', '1']]

def escapeEnds : List Char := "\"\\nrtbf0123456789abcdef".toList

section
variable {c d : Char} {cs xs : List Char}

theorem toList_textOf (s : String) :
    (textOf s).toList = '\x22' :: (escaped s.toList ++ ['\x22']) := by
  simp [textOf, escaped, String.toList_join, List.flatMap_map]

theorem escaped_cons (c : Char) (cs : List Char) :
    escaped (c :: cs) = (escapedChar c).toList ++ escaped cs := List.flatMap_cons

theorem isEscaped_iff : isEscaped c = true ↔ c.toNat < 32 ∨ c.toNat = 0x22 ∨ c.toNat = 0x5c := by
  have hnull : c = '\x00' ↔ c.toNat = 0 := Char.toNat_inj.symm
  simp only [isEscaped, inRanges, escapedRanges, List.any_cons, List.any_nil, Bool.or_false,
    Bool.or_eq_true, Bool.and_eq_true, decide_eq_true_eq, beq_iff_eq, hnull]
  omega

theorem escapedChar_of_not (h : isEscaped c = false) : (escapedChar c).toList = [c] := by
  have hne : ∀ d, isEscaped d = true → c ≠ d := by
    rintro d hd rfl
    rw [h] at hd
    cases hd
  have hcodes := mt isEscaped_iff.mpr (Bool.not_eq_true _ ▸ h)
  have hback : ¬c.toNat = 8 := by omega
  have hfeed : ¬c.toNat = 12 := by omega
  have hlarge : ¬c.toNat < 32 := by omega
  simp [escapedChar, hne '\x22' (by decide), hne '\\' (by decide), hne '\n' (by decide),
    hne '\r' (by decide), hne '\t' (by decide), hback, hfeed, hlarge]

theorem mem_escapedChars (h : isEscaped c = true) : c ∈ escapedChars := by
  rcases isEscaped_iff.mp h with hsmall | hquote | hslash
  · rw [← Char.ofNat_toNat c]
    exact List.mem_cons_of_mem _ (List.mem_cons_of_mem _
      (List.mem_map_of_mem (List.mem_range.mpr hsmall)))
  · exact List.mem_cons.mpr (.inl (Char.toNat_inj.mp hquote))
  · exact List.mem_cons_of_mem _ (List.mem_cons.mpr (.inl (Char.toNat_inj.mp hslash)))

/-- An escape is its mark, perhaps the first digits of a code, and one more character. -/
theorem escapedChar_of_isEscaped (h : isEscaped c = true) :
    ∃ inner ∈ escapeInners, ∃ last ∈ escapeEnds,
      (escapedChar c).toList = '\\' :: (inner ++ [last]) := by
  have hall : (escapedChars.all fun c => escapeInners.any fun inner => escapeEnds.any fun last =>
      (escapedChar c).toList == '\\' :: (inner ++ [last])) = true := by
    decide +kernel
  have hescape := List.all_eq_true.mp hall c (mem_escapedChars h)
  simpa only [List.any_eq_true, beq_iff_eq] using hescape

/-- Small letters change neither an escape nor the character that it stands for. -/
theorem smallLetters_escapedChar (h : isEscaped c = true) : smallLetters [c] = [c] ∧
    smallLetters (escapedChar c).toList = (escapedChar c).toList := by
  have hall : (escapedChars.all fun c =>
      isPlain c && (escapedChar c).toList.all isPlain) = true := by
    decide +kernel
  obtain ⟨hc, hescape⟩ :=
    Bool.and_eq_true_iff.mp (List.all_eq_true.mp hall c (mem_escapedChars h))
  exact ⟨smallLetters_of_plain (List.forall_mem_singleton.mpr hc),
    smallLetters_of_plain (List.all_eq_true.mp hescape)⟩

theorem isEscaped_of_mem_smallLetters (h : isEscaped c = false) (hd : d ∈ smallLetters [c]) :
    isEscaped d = false := by
  rw [smallLetters, List.flatMap_singleton] at hd
  obtain ⟨e, he, rfl⟩ := List.mem_map.mp hd
  have hsigma : isEscaped (plainSigma e) = isEscaped e := by
    unfold plainSigma
    split
    · rename_i hfinal
      rw [hfinal]
      decide
    · rfl
  have hnull : c ≠ '\x00' := by
    rintro rfl
    exact absurd h (by decide)
  rw [hsigma]
  rcases lowerChar_cases (show noCaseIn escapedRanges = true by decide +kernel) c with
    hself | ⟨-, hout⟩
  · rw [hself, List.mem_singleton] at he
    rw [he, h]
  · exact Bool.or_eq_false_iff.mpr
      ⟨beq_false_of_ne (ne_null_of_mem_lowerChar hnull he), hout e he⟩

theorem escaped_of_not (h : ∀ c ∈ cs, isEscaped c = false) : escaped cs = cs := by
  have hself : ∀ c ∈ cs, (escapedChar c).toList = [c] := fun c hc => escapedChar_of_not (h c hc)
  rw [escaped, List.flatMap_def, List.map_congr_left hself, ← List.flatMap_def,
    List.flatMap_singleton']

/-- Small letters can be made before the escapes or behind them. -/
theorem smallLetters_escaped (cs : List Char) :
    smallLetters (escaped cs) = escaped (smallLetters cs) := by
  induction cs with
  | nil => rfl
  | cons c rest ih =>
    have hfirst : smallLetters (escapedChar c).toList = escaped (smallLetters [c]) := by
      cases hc : isEscaped c with
      | true =>
        obtain ⟨hself, hescape⟩ := smallLetters_escapedChar hc
        rw [hself, hescape, escaped, List.flatMap_singleton]
      | false =>
        rw [escapedChar_of_not hc,
          escaped_of_not fun d hd => isEscaped_of_mem_smallLetters hc hd]
    calc smallLetters (escaped (c :: rest))
        = escaped (smallLetters [c]) ++ escaped (smallLetters rest) := by
          rw [escaped_cons, smallLetters_append, ih, hfirst]
      _ = escaped (smallLetters [c] ++ smallLetters rest) := List.flatMap_append.symm
      _ = escaped (smallLetters (c :: rest)) := by
          rw [← smallLetters_append, List.singleton_append]

end

/-- No character of the fragment is escaped, and none stands in the first digits of a code. -/
def Unescaped (fragment : List Char) : Prop :=
  ∀ c ∈ fragment, isEscaped c = false ∧ c ≠ '0' ∧ c ≠ '1'

section
variable {c d : Char} {fragment cs : List Char}

theorem prefix_escaped_iff (h : Unescaped fragment) :
    fragment <+: escaped cs ↔ fragment <+: cs := by
  induction fragment generalizing cs with
  | nil => exact iff_of_true (List.nil_prefix) (List.nil_prefix)
  | cons c rest ih =>
    obtain ⟨hc, hrest⟩ := List.forall_mem_cons.mp h
    cases cs with
    | nil => rfl
    | cons d cs =>
      rw [escaped_cons]
      cases hd : isEscaped d with
      | false =>
        rw [escapedChar_of_not hd, List.singleton_append, List.cons_prefix_cons,
          List.cons_prefix_cons, ih hrest]
      | true =>
        obtain ⟨inner, -, last, -, hescape⟩ := escapedChar_of_isEscaped hd
        rw [hescape, List.cons_append, List.cons_prefix_cons, List.cons_prefix_cons]
        refine iff_of_false (fun hmark => ?_) (fun hsame => ?_)
        · rw [hmark.1] at hc
          exact absurd hc.1 (by decide)
        · rw [hsame.1, hd] at hc
          exact absurd hc.1 (by decide)

/-- No fragment but the mark of a code begins in the first digits of one. -/
theorem infix_inner_append (h : Unescaped (c :: fragment)) (hcode : c :: fragment ≠ ['u'])
    {inner : List Char} (hinner : inner ∈ escapeInners) (last : Char) (xs : List Char) :
    c :: fragment <:+: inner ++ last :: xs ↔ c :: fragment <:+: last :: xs := by
  have hzero : '0' ∉ c :: fragment := fun hc => absurd rfl (h _ hc).2.1
  have hone : '1' ∉ c :: fragment := fun hc => absurd rfl (h _ hc).2.2
  have hmark : ¬c :: fragment <:+: ['u'] := by
    rw [List.infix_cons_iff, List.cons_prefix_cons, List.prefix_nil, List.infix_nil]
    rintro (⟨rfl, rfl⟩ | hnil)
    · exact hcode rfl
    · cases hnil
  have hdigit : ¬c :: fragment <:+: ['0'] := fun hpart =>
    hzero (List.mem_singleton.mp (hpart.subset List.mem_cons_self) ▸ List.mem_cons_self)
  have hunit : ¬c :: fragment <:+: ['u', '0', '0'] := fun hpart =>
    ((infix_append_cons_iff hzero ['u'] ['0']).mp hpart).elim hmark hdigit
  simp only [escapeInners, List.mem_cons, List.not_mem_nil, or_false] at hinner
  rcases hinner with rfl | rfl | rfl
  · rfl
  · exact (infix_append_cons_iff hzero ['u', '0', '0'] (last :: xs)).trans (or_iff_right hunit)
  · exact (infix_append_cons_iff hone ['u', '0', '0'] (last :: xs)).trans (or_iff_right hunit)

/-- A fragment begins with the last character of what stands for a character, or behind it. -/
theorem infix_escapedChar_append (h : Unescaped (c :: fragment)) (hcode : c :: fragment ≠ ['u'])
    (d : Char) (xs : List Char) : c :: fragment <:+: (escapedChar d).toList ++ xs ↔
      (escapedChar d).toList.getLast? = some c ∧ fragment <+: xs ∨ c :: fragment <:+: xs := by
  have hlast : ∀ last, c :: fragment <:+: last :: xs ↔
      some last = some c ∧ fragment <+: xs ∨ c :: fragment <:+: xs := by
    intro last
    rw [List.infix_cons_iff, List.cons_prefix_cons, Option.some_inj, eq_comm]
  cases hd : isEscaped d with
  | false => rw [escapedChar_of_not hd, List.singleton_append, hlast, List.getLast?_singleton]
  | true =>
    obtain ⟨inner, hinner, last, -, hescape⟩ := escapedChar_of_isEscaped hd
    have hmark : '\\' ∉ c :: fragment := fun hc => absurd (h _ hc).1 (by decide)
    have hnil : ¬c :: fragment <:+: [] := by simp
    have hbehind := infix_append_cons_iff hmark [] (inner ++ last :: xs)
    rw [List.nil_append, or_iff_right hnil, infix_inner_append h hcode hinner, hlast] at hbehind
    have hend : ('\\' :: (inner ++ [last])).getLast? = some last := by
      rw [← List.cons_append, List.getLast?_concat]
    rw [hescape, hend, List.cons_append, List.append_assoc, List.singleton_append, hbehind]

/-- A fragment of the escaped text is one of the text itself, but for its first character: in its
place stands one that is written with this character as its last one. -/
theorem infix_escaped_iff (h : Unescaped (c :: fragment)) (hcode : c :: fragment ≠ ['u']) :
    c :: fragment <:+: escaped cs ↔
      ∃ d, (escapedChar d).toList.getLast? = some c ∧ d :: fragment <:+: cs := by
  induction cs with
  | nil => simp [escaped]
  | cons e rest ih =>
    rw [escaped_cons, infix_escapedChar_append h hcode, ih,
      prefix_escaped_iff (List.forall_mem_cons.mp h).2]
    constructor
    · rintro (⟨hlast, hhead⟩ | ⟨d, hlast, hpart⟩)
      · exact ⟨e, hlast, (List.cons_prefix_cons.mpr ⟨rfl, hhead⟩).isInfix⟩
      · exact ⟨d, hlast, hpart.trans (List.suffix_cons e rest).isInfix⟩
    · rintro ⟨d, hlast, hpart⟩
      rcases List.infix_cons_iff.mp hpart with hhere | hlater
      · obtain ⟨rfl, hhead⟩ := List.cons_prefix_cons.mp hhere
        exact .inl ⟨hlast, hhead⟩
      · exact .inr ⟨d, hlast, hlater⟩

def endingIn (c : Char) : List Char :=
  c :: escapedChars.filter fun d => (escapedChar d).toList.getLast? == some c

theorem mem_endingIn (h : isEscaped c = false) :
    d ∈ endingIn c ↔ (escapedChar d).toList.getLast? = some c := by
  rw [endingIn, List.mem_cons, List.mem_filter, beq_iff_eq]
  constructor
  · rintro (rfl | ⟨-, hlast⟩)
    · rw [escapedChar_of_not h, List.getLast?_singleton]
    · exact hlast
  · intro hlast
    cases hd : isEscaped d with
    | false =>
      rw [escapedChar_of_not hd, List.getLast?_singleton] at hlast
      exact .inl (Option.some.inj hlast)
    | true => exact .inr ⟨mem_escapedChars hd, hlast⟩

/-- The texts that are written with the fragment inside: itself, and those that have another first
character that is written with its first one at the end. -/
def spellings (fragment : List Char) : List (List Char) :=
  match fragment with
  | [] => [[]]
  | c :: rest => (endingIn c).map (· :: rest)

theorem sigmaless_of_mem_spellings (hsigma : Sigmaless fragment) {spelling : List Char}
    (hspelling : spelling ∈ spellings fragment) : Sigmaless spelling := by
  cases fragment with
  | nil =>
    rw [List.mem_singleton.mp hspelling]
    exact hsigma
  | cons c rest =>
    obtain ⟨d, hd, rfl⟩ := List.mem_map.mp hspelling
    rcases List.mem_cons.mp hd with rfl | hescaped
    · exact hsigma
    · have hall : escapedChars.all (fun d => d != 'σ' && d != 'ς') = true := by decide
      have hd := List.all_eq_true.mp hall d (List.mem_filter.mp hescaped).1
      have hkeep : ∀ sigma, d ≠ sigma → sigma ∉ c :: rest → sigma ∉ d :: rest := by
        intro sigma hne hmem
        rw [List.mem_cons, not_or] at hmem ⊢
        exact ⟨hne.symm, hmem.2⟩
      simp only [Bool.and_eq_true, bne_iff_ne] at hd
      exact ⟨hkeep _ hd.1 hsigma.1, hkeep _ hd.2 hsigma.2⟩

/-- A fragment stands in the small letters of a text as it is written in JSON where one of its
spellings stands in the small letters of the text. -/
theorem infix_lower_textOf (hsigma : Sigmaless fragment) (h : Unescaped fragment)
    (hcode : fragment ≠ ['u']) (hne : fragment ≠ []) (s : String) :
    fragment <:+: (lower (textOf s)).toList ↔
      ∃ spelling ∈ spellings fragment, spelling <:+: (lower s).toList := by
  have hquote : '\x22' ∉ fragment := fun hc => absurd (h _ hc).1 (by decide)
  have hnil : ¬fragment <:+: [] := fun hpart => hne (List.infix_nil.mp hpart)
  have hmark : smallLetters ['\x22'] = ['\x22'] := by decide
  have hwhole : smallLetters ('\x22' :: (escaped s.toList ++ ['\x22'])) =
      [] ++ '\x22' :: (escaped (smallLetters s.toList) ++ '\x22' :: []) := by
    rw [← List.singleton_append, smallLetters_append, smallLetters_append, hmark,
      smallLetters_escaped]
    rfl
  have hspellings : ∀ spelling ∈ spellings fragment,
      (spelling <:+: (lower s).toList ↔ spelling <:+: smallLetters s.toList) :=
    fun spelling hspelling => infix_lower (sigmaless_of_mem_spellings hsigma hspelling) s
  rw [infix_lower hsigma, toList_textOf, hwhole, infix_append_cons_iff hquote,
    infix_append_cons_iff hquote, or_iff_right hnil, or_iff_left hnil,
    exists_congr fun spelling => and_congr_right (hspellings spelling)]
  cases fragment with
  | nil => exact absurd rfl hne
  | cons c rest =>
    rw [infix_escaped_iff h hcode]
    simp only [spellings, List.mem_map, exists_exists_and_eq_and,
      mem_endingIn (h c List.mem_cons_self).1]

end

end Json

end SalesDesk
