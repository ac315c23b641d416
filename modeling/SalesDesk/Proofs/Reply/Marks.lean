import SalesDesk.Proofs.Reply.Cuts
import SalesDesk.Proofs.Reply.Pairs
import SalesDesk.Proofs.Text.Signs
import SalesDesk.Proofs.Text.Words

/-!
A reply in one currency has no mark of the other one: neither its sign before a digit, nor its unit
or its code as a word of their own. Each step leaves no mark of its kind, and no later one brings it
back.
-/
namespace SalesDesk

open Text

/-- A word stands in a text, in any case, with no word character on either side. -/
def Text.Stands (word : List Char) (text : String) : Prop :=
  ∃ before piece after, text.toList = before ++ (piece ++ after) ∧ Currency.Spells word piece ∧
    edge before.getLast? piece.head? = true ∧ edge piece.getLast? after.head? = true

/-- A text has no mark of a currency. -/
structure Currency.Unmarked (c : Currency) (text : String) : Prop where
  sign (before blanks : List Char) (d : Char) (after : List Char)
    (htext : text.toList = before ++ c.sign :: (blanks ++ d :: after))
    (hblanks : blanks.all isBlank = true) : isDigit d = false
  unit : ¬Stands c.unit.toList text
  units : ¬Stands (c.unit.toList ++ ['s']) text
  code : ¬Stands c.code.toList text

namespace Currency

/-- A replacement shows something, but not the sign, and begins with a digit only if what it
replaces does. -/
structure Shields (sign : Char) (piece replacement : List Char) : Prop where
  shown : replacement.any (!isBlank ·) = true
  absent : sign ∉ replacement
  opens (h : opens replacement = true) : opens piece = true

section
variable {sign : Char} {step : Step} {before : Option Char} {cs out : List Char}

theorem signed_of_rewritten
    (hstep : ∀ before piece rest replacement,
      step before (piece ++ rest) = some (piece.length, replacement) →
        Shields sign piece replacement)
    (h : Rewritten step before cs out) :
    (opens out = true → opens cs = true) ∧ (signed sign out = true → signed sign cs = true) := by
  induction h with
  | done => exact ⟨id, id⟩
  | @keep before c rest out _ _ ih =>
    constructor
    · intro hopens
      cases hc : isBlank c with
      | true =>
        rw [opens_cons_of_blank hc] at hopens ⊢
        exact ih.1 hopens
      | false =>
        rw [opens_cons_of_not_blank hc] at hopens ⊢
        exact hopens
    · intro hsigned
      rcases Bool.or_eq_true_iff.mp hsigned with hhere | hlater
      · obtain ⟨hc, hopens⟩ := Bool.and_eq_true_iff.mp hhere
        rw [signed, hc, ih.1 hopens]
        rfl
      · exact Bool.or_eq_true_iff.mpr (.inr (ih.2 hlater))
  | take _ htake _ ih =>
    have hshields := hstep _ _ _ _ htake
    constructor
    · intro hopens
      rw [opens_append hshields.shown] at hopens
      exact opens_append_left (hshields.opens hopens) _
    · intro hsigned
      rw [signed_append_of_not_mem hshields.absent] at hsigned
      exact signed_append_right (ih.2 hsigned) _

theorem Swaps.shields (hsign : isNumeral sign = false) {piece replacement : List Char}
    (h : Swaps sign piece replacement) : Shields sign piece replacement := by
  obtain ⟨digits, old, new, rfl, rfl, hdigits, -, -, hnumeral, hshown, habsent⟩ := h.parts
  have hall := List.all_eq_true.mp hdigits
  refine ⟨?_, ?_, fun hopens => ?_⟩
  · rw [List.any_append, hshown, Bool.or_true]
  · intro hmem
    rcases List.mem_append.mp hmem with hmem | hmem
    · have hdigit := hall sign hmem
      rw [isDigit_of_isNumeral hsign] at hdigit
      cases hdigit
    · exact habsent hmem
  · cases digits with
    | nil =>
      obtain ⟨d, hd, hdigit⟩ := exists_digit_of_opens hopens
      have hd := List.any_eq_false.mp hnumeral d hd
      rw [isNumeral, hdigit] at hd
      exact absurd rfl hd
    | cons d rest =>
      have hd : isDigit d = true := hall d List.mem_cons_self
      rw [List.cons_append, opens_cons_of_not_blank (not_isBlank_of_isDigit hd), hd]

end

section
variable {f t : Currency} {before : Option Char} {cs out : List Char}

theorem Swapping.shields (hf : f.Lettered) {step : Step} (h : Swapping f.sign step)
    (b : Option Char) (piece rest replacement : List Char)
    (hstep : step b (piece ++ rest) = some (piece.length, replacement)) :
    Shields f.sign piece replacement := (h.swaps hstep).shields hf.sign_numeral

theorem signed_of_signStep (hf : f.Lettered) (ht : t.Lettered) (hne : f.sign ≠ t.sign)
    (h : Rewritten (signStep f t) before cs out) : signed f.sign out = false := by
  have hswaps : Swapping f.sign (signStep f t) := fun _ _ _ _ => takesSwap_signStep hf ht hne
  induction h with
  | done => rfl
  | @keep before c rest out hstep hrest ih =>
    have hopens := (signed_of_rewritten (hswaps.shields hf) hrest).1
    have hnone : (c == f.sign && opens rest) = false := by
      cases hhere : c == f.sign && opens rest with
      | false => rfl
      | true =>
        have hsome : signStep f t before (c :: rest) =
            some (takenUpTo (c :: rest) (rest.dropWhile isBlank), [t.sign]) := if_pos hhere
        rw [hsome] at hstep
        cases hstep
    rw [signed, ih, Bool.or_false, Bool.and_eq_false_iff]
    rcases Bool.and_eq_false_iff.mp hnone with hc | hrest
    · exact .inl hc
    · exact .inr (eq_false_of_imp hopens hrest)
  | take _ hstep _ ih =>
    rw [signed_append_of_not_mem (hswaps.shields hf _ _ _ _ hstep).absent, ih]

theorem signed_foldl_replace (hf : f.Lettered) {steps : List Step}
    (hsteps : ∀ step ∈ steps, Swapping f.sign step) (hcs : signed f.sign cs = false) :
    signed f.sign (steps.foldl (fun cs step => replace step cs) cs) = false := by
  induction steps generalizing cs with
  | nil => exact hcs
  | cons step rest ih =>
    obtain ⟨hstep, hrest⟩ := List.forall_mem_cons.mp hsteps
    have hsigned := (signed_of_rewritten (hstep.shields hf) (rewritten_replace hstep.takes cs)).2
    exact ih hrest (eq_false_of_imp hsigned hcs)

end

section
variable {f t : Currency}

theorem isWord_of_isLetters {piece : List Char} (h : piece.all isLetter = true) :
    piece.all isWord = true :=
  List.all_eq_true.mpr fun c hc => isWord_of_isLetter (List.all_eq_true.mp h c hc)

/-- A word begins where letters do, after what is no part of a word. -/
theorem wordAt_of_edge {before : Option Char} {piece rest : List Char} (hne : piece ≠ [])
    (hpiece : piece.all isWord = true) (h : edge before (piece ++ rest).head? = true) :
    wordAt before = false := by
  obtain ⟨c, more, rfl⟩ := List.exists_cons_of_ne_nil hne
  have hc : wordAt (some c) = true := (Bool.and_eq_true_iff.mp hpiece).1
  rw [List.cons_append, List.head?_cons, edge, hc] at h
  simpa using h

theorem edge_of_word {before : Option Char} {piece : List Char} (hne : piece ≠ [])
    (hpiece : piece.all isWord = true) (hbefore : wordAt before = false) (rest : List Char) :
    edge before (piece ++ rest).head? = true := by
  obtain ⟨c, more, rfl⟩ := List.exists_cons_of_ne_nil hne
  have hc : wordAt (some c) = true := (Bool.and_eq_true_iff.mp hpiece).1
  rw [List.cons_append, List.head?_cons, edge, hc, hbefore]
  rfl

theorem takesWords_unitStep (hf : f.Lettered) :
    TakesWords (unitStep f t) (SpellsUnit f.unit) t.units.toList where
  whole {before cs taken replacement} h := by
    unfold unitStep at h
    split at h
    · cases h
    · rename_i hedge
      obtain ⟨rest, hrest, h⟩ := Option.bind_eq_some_iff.mp h
      cases h
      obtain ⟨piece, rfl, hpiece⟩ := mem_afterUnit_iff.mp (List.mem_of_find?_eq_some hrest)
      obtain ⟨hne, hletters⟩ := isLetter_of_spellsUnit hf hpiece
      have hword := isWord_of_isLetters hletters
      have hend := List.find?_some hrest
      refine ⟨rfl, wordAt_of_edge hne hword (by simpa using hedge), piece, rest, rfl,
        takenUpTo_append piece rest, hne, hword, by simpa using hend⟩
  meant {before w rest} hbefore hne hw hrest hmeant := by
    have hedge := edge_of_word hne hw hbefore rest
    have hmem : rest ∈ afterUnit f.unit (w ++ rest) := mem_afterUnit_iff.mpr ⟨w, rfl, hmeant⟩
    have hfound : ((afterUnit f.unit (w ++ rest)).find? fun rest => !wordAt rest.head?).isSome :=
      List.find?_isSome.mpr ⟨rest, hmem, by simp [hrest]⟩
    obtain ⟨found, hfound⟩ := Option.isSome_iff_exists.mp hfound
    rw [unitStep, hedge]
    simp [hfound]

theorem takesWords_codeStep (hf : f.Lettered) :
    TakesWords (codeStep f t) (Spells f.code.toList) t.code.toList where
  whole {before cs taken replacement} h := by
    unfold codeStep at h
    split at h
    · cases h
    · rename_i hedge
      obtain ⟨rest, hrest, h⟩ := Option.bind_eq_some_iff.mp h
      split at h
      · cases h
      · rename_i hend
        cases h
        obtain ⟨piece, rfl, hpiece⟩ := after?_eq_some_iff.mp hrest
        have hne : piece ≠ [] := by
          rintro rfl
          have hcode : f.code.toList = [] := List.forall₂_nil_right_iff.mp hpiece
          exact hf.code_ne hcode
        have hword := isWord_of_isLetters (isLetter_of_spells hpiece hf.code)
        exact ⟨rfl, wordAt_of_edge hne hword (by simpa using hedge), piece, rest, rfl,
          takenUpTo_append piece rest, hne, hword, by simpa using hend⟩
  meant {before w rest} hbefore hne hw hrest hmeant := by
    have hedge := edge_of_word hne hw hbefore rest
    have hafter : after? f.code.toList (w ++ rest) = some rest :=
      after?_eq_some_iff.mpr ⟨w, rfl, hmeant⟩
    rw [codeStep, hedge]
    simp [hafter, hrest]

def IsMark (c : Currency) (w : List Char) : Prop := SpellsUnit c.unit w ∨ Spells c.code.toList w

/-- No mark has a digit in it. -/
theorem not_isMark_of_digit (hf : f.Lettered) {w : List Char} (hw : w.any isDigit = true) :
    ¬f.IsMark w := by
  intro hmark
  have hletters : w.all isLetter = true := by
    rcases hmark with hunit | hcode
    · exact (isLetter_of_spellsUnit hf hunit).2
    · exact isLetter_of_spells hcode hf.code
  obtain ⟨c, hc, hdigit⟩ := List.any_eq_true.mp hw
  have hnumeral := isNumeral_of_isLetter (List.all_eq_true.mp hletters c hc)
  rw [isDigit_of_isNumeral hnumeral] at hdigit
  cases hdigit

/-- What the steps rely on when they turn one currency into another. -/
structure Differ (f t : Currency) : Prop where
  from_lettered : f.Lettered
  to_lettered : t.Lettered
  signs : f.sign ≠ t.sign
  units : ¬f.IsMark t.units.toList
  code : ¬f.IsMark t.code.toList
  profit : ¬f.IsMark "Profit".toList
  brackets : f.sign ∉ " (Profit: ".toList ++ [')']
  other : t.other = f
  known : ofSymbol? t.symbol = some t

instance (word piece : List Char) : Decidable (Spells word piece) :=
  inferInstanceAs (Decidable (List.Forall₂ _ word piece))

instance (c : Currency) (w : List Char) : Decidable (c.IsMark w) :=
  inferInstanceAs (Decidable ((_ ∨ _) ∨ _))

theorem differ_dollar_rupee : Differ dollar rupee where
  from_lettered := lettered_dollar
  to_lettered := lettered_rupee
  signs := by decide
  units := by decide +kernel
  code := by decide +kernel
  profit := by decide +kernel
  brackets := by decide
  other := rfl
  known := rfl

theorem differ_rupee_dollar : Differ rupee dollar where
  from_lettered := lettered_rupee
  to_lettered := lettered_dollar
  signs := by decide
  units := by decide +kernel
  code := by decide +kernel
  profit := by decide +kernel
  brackets := by decide
  other := rfl
  known := rfl

/-- The steps leave no sign before a digit, and no word that is a mark. -/
theorem corrected_of_steps (h : Differ f t) (cs : List Char) :
    signed f.sign ((f.steps t).foldl (fun cs step => replace step cs) cs) = false ∧
      ∀ v ∈ runs isWord ((f.steps t).foldl (fun cs step => replace step cs) cs), ¬f.IsMark v := by
  have hf := h.from_lettered
  have ht := h.to_lettered
  have hfirst : Swapping f.sign (signStep f t) := fun _ _ _ _ => takesSwap_signStep hf ht h.signs
  have hlater : ∀ step ∈ (f.steps t).tail, Swapping f.sign step := fun _ hstep =>
    swapping_of_mem_steps hf ht h.signs (List.mem_of_mem_tail hstep)
  constructor
  · have hsigned := signed_of_signStep hf ht h.signs (rewritten_replace hfirst.takes cs)
    have hall := signed_foldl_replace hf hlater hsigned
    exact hall
  · intro v hv
    -- the unit goes in the last step but one, the code in the last
    change v ∈ runs isWord (replaceFrom (codeStep f t) 0 none
      (replaceFrom (unitStep f t) 0 none _)) at hv
    have hletters : ∀ {word : List Char}, word.all Char.isAlpha = true → word.all isWord = true :=
      fun hword => isWord_of_isLetters (List.all_eq_true.mpr fun c hc =>
        isLetter_of_isAlpha (List.all_eq_true.mp hword c hc))
    have hcode := (takesWords_codeStep hf).mem_runs_replaceFrom ht.code_ne (hletters ht.code)
      (.inl rfl) hv
    rcases hcode with rfl | ⟨hv, hcode⟩
    · exact h.code
    · have hunit := (takesWords_unitStep hf).mem_runs_replaceFrom ht.units_ne (hletters ht.units)
        (.inl rfl) hv
      rcases hunit with rfl | ⟨-, hunit⟩
      · exact h.units
      · exact not_or.mpr ⟨hunit, hcode⟩

end

end Currency

namespace Reply

def IsKnownWord (cs v : List Char) : Prop :=
  v ∈ runs isWord cs ∨ v = "Profit".toList ∨ v.any isDigit = true

section
variable {s : Char} {first blanks second rest : List Char}

theorem IsKnownWord.of_rest (hs : isWord s = false) (q : List Char) {v : List Char}
    (h : IsKnownWord rest v) :
    IsKnownWord (q ++ ([s] ++ first ++ (blanks ++ bracketed [s] second) ++ rest)) v := by
  have hsplit : q ++ ([s] ++ first ++ (blanks ++ bracketed [s] second) ++ rest) =
      q ++ s :: ((first ++ (blanks ++ '(' :: s :: second)) ++ ')' :: rest) := by simp [bracketed]
  rcases h with h | h
  · left
    rw [hsplit, runs_append_cons hs, runs_append_cons (by decide)]
    exact List.mem_append_right _ (List.mem_append_right _ h)
  · exact .inr h

theorem mem_runs_profit (hs : isWord s = false) {digits : List Char}
    (hdigits : digits.all isDigit = true) (hsecond : IsAmount second) (out : List Char)
    {v : List Char}
    (hv : v ∈ runs isWord
      (digits ++ (" (Profit: ".toList ++ [s] ++ second ++ [')'] ++ out))) :
    v = "Profit".toList ∨ v.any isDigit = true ∨ v ∈ runs isWord out := by
  have hnumerals : digits.all isNumeral = true := List.all_eq_true.mpr fun c hc => by
    simp [isNumeral, List.all_eq_true.mp hdigits c hc]
  have hprofit : runs isWord "Profit".toList = ["Profit".toList] :=
    runs_eq_singleton (by decide) (by decide)
  have hparts : digits ++ (" (Profit: ".toList ++ [s] ++ second ++ [')'] ++ out) =
      digits ++ ' ' :: '(' :: ("Profit".toList ++ ':' :: ' ' :: s :: (second ++ ')' :: out)) := by
    simp
  rw [hparts, runs_append_cons (by decide), runs_cons (by decide), runs_append_cons (by decide),
    runs_cons (by decide), runs_cons hs, runs_append_cons (by decide), hprofit] at hv
  rcases List.mem_append.mp hv with hv | hv
  · exact .inr (.inl (any_isDigit_of_mem_runs hnumerals hv))
  rcases List.mem_append.mp hv with hv | hv
  · exact .inl (List.mem_singleton.mp hv)
  rcases List.mem_append.mp hv with hv | hv
  · exact .inr (.inl (any_isDigit_of_mem_runs hsecond.all hv))
  · exact .inr (.inr hv)

/-- No word comes in for a pair but the one that names a profit and such with digits, and the word
before it stays. -/
theorem isKnownWord_pairs (hs : isWord s = false) {before : Option Char} {cs out : List Char}
    (h : Rewritten (pairStep [s]) before cs out) (digits q : List Char)
    (hdigits : digits.all isDigit = true) (hq : q.all isWord = true) {v : List Char}
    (hv : v ∈ runs isWord (digits ++ q ++ out)) : IsKnownWord (q ++ cs) v := by
  induction h generalizing digits q with
  | done =>
    rw [List.append_nil] at hv ⊢
    rcases mem_runs_digits_append hdigits hq hv with hv | hv
    · exact .inl hv
    · exact .inr (.inr hv)
  | @keep before c rest out _ _ ih =>
    cases hc : isWord c with
    | true =>
      have hsplit : digits ++ q ++ c :: out = digits ++ (q ++ [c]) ++ out := by simp
      have hsplit' : q ++ c :: rest = (q ++ [c]) ++ rest := by simp
      rw [hsplit] at hv
      rw [hsplit']
      exact ih digits (q ++ [c]) hdigits (by rw [List.all_append, hq]; simp [hc]) hv
    | false =>
      rw [runs_append_cons hc] at hv
      rcases List.mem_append.mp hv with hv | hv
      · rcases mem_runs_digits_append hdigits hq hv with hv | hv
        · exact .inl (by rw [runs_append_cons hc]; exact List.mem_append_left _ hv)
        · exact .inr (.inr hv)
      · rcases ih [] [] rfl rfl hv with hv | hv
        · exact .inl (by rw [runs_append_cons hc]; exact List.mem_append_right _ hv)
        · exact .inr hv
  | @take before piece replacement rest out _ hstep _ ih =>
    obtain ⟨first, blanks, second, more, ending, hcs, -, hpair, hlength, rfl, hend⟩ :=
      pairStep_eq_some hstep
    obtain ⟨rfl, rfl⟩ := List.append_inj hcs hlength
    have hsplit : digits ++ q ++ ([s] ++ first ++ ending ++ out) =
        (digits ++ q) ++ s :: (first ++ (ending ++ out)) := by simp
    rw [hsplit, runs_append_cons hs] at hv
    rcases List.mem_append.mp hv with hv | hv
    · rcases mem_runs_digits_append hdigits hq hv with hv | hv
      · left
        rw [List.append_assoc, List.append_assoc, List.singleton_append, runs_append_cons hs]
        exact List.mem_append_left _ hv
      · exact .inr (.inr hv)
    · apply IsKnownWord.of_rest hs
      obtain ⟨digits', hdigits', hruns⟩ :=
        mem_runs_numerals_append hpair.first.all (ending ++ out)
      rcases hruns v hv with hv | hv
      · exact .inr (.inr hv)
      cases hend with
      | dropped _ => exact ih digits' [] hdigits' rfl (by simpa using hv)
      | profit _ =>
        rcases mem_runs_profit hs hdigits' hpair.second out hv with rfl | hdigit | hv
        · exact .inr (.inl rfl)
        · exact .inr (.inr hdigit)
        · exact ih [] [] rfl rfl hv

end

section
variable {f t : Currency}

/-- Pairs of amounts in one currency bring in no sign of the other. -/
theorem shields_pairStep (h : f.Differ t) {before : Option Char}
    {piece rest replacement : List Char}
    (hstep : pairStep [t.sign] before (piece ++ rest) = some (piece.length, replacement)) :
    Currency.Shields f.sign piece replacement := by
  obtain ⟨first, blanks, second, more, ending, -, -, hpair, -, rfl, hend⟩ := pairStep_eq_some hstep
  have hf := h.from_lettered
  have ht := h.to_lettered
  have hamount : ∀ {amount : List Char}, IsAmount amount → f.sign ∉ amount := by
    intro amount hamount hmem
    have hnumeral := List.all_eq_true.mp hamount.all _ hmem
    rw [hf.sign_numeral] at hnumeral
    cases hnumeral
  have hending : f.sign ∉ ending := by
    cases hend with
    | dropped _ => exact List.not_mem_nil
    | profit _ =>
      obtain ⟨hopen, hclose⟩ := not_or.mp (mt List.mem_append.mpr h.brackets)
      simp only [List.mem_append, List.mem_singleton, not_or]
      exact ⟨⟨⟨hopen, h.signs⟩, hamount hpair.second⟩, mt List.mem_singleton.mpr hclose⟩
  refine ⟨by simp [ht.sign_blank], ?_, fun hopens => ?_⟩
  · simp only [List.mem_append, List.mem_singleton, not_or]
    exact ⟨⟨h.signs, hamount hpair.first⟩, hending⟩
  · rw [List.append_assoc, List.singleton_append, opens_cons_of_not_blank ht.sign_blank,
      isDigit_of_isNumeral ht.sign_numeral] at hopens
    cases hopens

/-- What is left of a currency in a text: no sign before a digit and no word that is a mark. -/
structure Clean (f : Currency) (cs : List Char) : Prop where
  sign : signed f.sign cs = false
  words : ∀ v ∈ runs isWord cs, ¬f.IsMark v

theorem clean_correctCurrency (h : f.Differ t) (text : String) :
    Clean f (correctCurrency text t.symbol).toList := by
  obtain ⟨hsign, hwords⟩ := Currency.corrected_of_steps h text.toList
  rw [correctCurrency, h.known]
  dsimp only
  rw [h.other, String.toList_ofList]
  exact ⟨hsign, hwords⟩

theorem clean_clarifyPairs (h : f.Differ t) {text : String} (htext : Clean f text.toList) :
    Clean f (clarifyPairs text t.symbol).toList := by
  have hsymbol : t.symbol.toList = [t.sign] := by simp [Currency.symbol]
  have hrewritten := rewritten_replace (takes_pairStep [t.sign]) text.toList
  rw [clarifyPairs, String.toList_ofList, hsymbol]
  constructor
  · have hshields : ∀ before piece rest replacement,
        pairStep [t.sign] before (piece ++ rest) = some (piece.length, replacement) →
          Currency.Shields f.sign piece replacement := fun _ _ _ _ => shields_pairStep h
    have hsigned := (Currency.signed_of_rewritten hshields hrewritten).2
    exact eq_false_of_imp hsigned htext.sign
  · intro v hv
    rcases isKnownWord_pairs h.to_lettered.sign_word hrewritten [] [] rfl rfl hv
      with hv | rfl | hdigit
    · exact htext.words v hv
    · exact h.profit
    · exact Currency.not_isMark_of_digit h.from_lettered hdigit

theorem apartAtBlanks_filter : ApartAtBlanks (List.filter (!isBlank ·)) where
  nil := rfl
  append before b after hb := by
    rw [List.filter_append, List.filter_cons_of_neg (by simp [hb])]

/-- A clean text stays clean if it loses words and characters at its end, or blanks. -/
theorem Clean.of_prefix (hf : f.Lettered) {cs start : List Char} (h : Clean f cs)
    (hwords : runs isWord start <+: runs isWord cs)
    (hshown : start.filter (!isBlank ·) <+: cs.filter (!isBlank ·)) : Clean f start where
  sign := by
    have hsigned := h.sign
    obtain ⟨more, hmore⟩ := hshown
    rw [← signed_filter hf.sign_blank, ← hmore] at hsigned
    rw [← signed_filter hf.sign_blank]
    exact eq_false_of_imp (signed_append_left · more) hsigned
  words v hv := h.words v (hwords.subset hv)

theorem clean_cutOffTopic (hf : f.Lettered) {text : String} (h : Clean f text.toList) :
    Clean f (cutOffTopic text).toList := by
  rcases cutOffTopic_cases text with hsame | ⟨start, e, rest, htext, he, hcut⟩
  · rw [hsame]
    exact h
  · have hgap : isWord e = false := by
      have hall : ['.', '\n', '!', '?'].all (!isWord ·) = true := by decide
      simpa using List.all_eq_true.mp hall e (List.contains_iff_mem.mp he)
    rw [hcut]
    apply h.of_prefix hf
    · rw [(apartAtBlanks_runs isWord_of_isBlank).stripChars, htext, runs_append_cons hgap,
        runs_append_cons hgap]
      exact (List.append_nil (runs isWord start)).symm ▸ List.prefix_append _ _
    · rw [apartAtBlanks_filter.stripChars, htext]
      exact (List.prefix_append (start ++ [e]) rest).filter _ |>.trans (by simp)

theorem clean_capWords (hf : f.Lettered) {text : String} (h : Clean f text.toList) (limit : Int) :
    Clean f (capWords text limit).toList := by
  rcases capWords_cases text limit with hsame | ⟨start, hcapped, hstart⟩
  · rw [hsame]
    exact h
  · have hclean := h.of_prefix hf (hstart (apartAtBlanks_runs isWord_of_isBlank))
      (hstart apartAtBlanks_filter)
    have hdots : f.sign ∉ "...".toList := by
      intro hmem
      have hpoint : f.sign = '.' := by simpa using hmem
      have hnumeral := hf.sign_numeral
      rw [hpoint] at hnumeral
      cases hnumeral
    rw [hcapped, String.toList_append]
    constructor
    · have hnone : signed f.sign "...".toList = false := by
        rw [← List.append_nil "...".toList, signed_append_of_not_mem hdots]
        rfl
      exact eq_false_of_imp (signed_of_append rfl hnone) hclean.sign
    · intro v hv
      have hruns : runs isWord (start.toList ++ "...".toList) = runs isWord start.toList :=
        (runs_append_cons (c := '.') (by decide) start.toList ['.', '.']).trans (List.append_nil _)
      exact hclean.words v (hruns ▸ hv)

theorem mem_runs_of_stands {word : List Char} {text : String} (hne : word ≠ [])
    (hword : word.all Char.isAlpha = true) (h : Stands word text) :
    ∃ w ∈ runs isWord text.toList, Currency.Spells word w := by
  obtain ⟨before, piece, after, htext, hspells, hstart, hend⟩ := h
  have hletters := Currency.isWord_of_isLetters (Currency.isLetter_of_spells hspells hword)
  have hpiece : piece ≠ [] := by
    rintro rfl
    exact hne (List.forall₂_nil_right_iff.mp hspells)
  refine ⟨piece, ?_, hspells⟩
  have hfirst : wordAt before.getLast? = false := by
    rw [← List.append_nil piece] at hstart
    exact Currency.wordAt_of_edge hpiece hletters hstart
  have hafter : wordAt after.head? = false := by
    have hlast : wordAt piece.getLast? = true := by
      rw [List.getLast?_eq_some_getLast hpiece]
      exact List.all_eq_true.mp hletters _ (List.getLast_mem hpiece)
    rw [edge, hlast] at hend
    simpa using hend
  have hruns := runs_append_run hpiece hletters hafter
  cases before using List.reverseRecOn with
  | nil =>
    rw [htext, List.nil_append, hruns]
    exact List.mem_cons_self
  | append_singleton start c =>
    have hc : isWord c = false := by simpa [wordAt] using hfirst
    rw [htext, List.append_assoc, List.singleton_append, runs_append_cons hc, hruns]
    exact List.mem_append_right _ List.mem_cons_self

theorem Clean.unmarked (hf : f.Lettered) {text : String} (h : Clean f text.toList) :
    f.Unmarked text where
  sign before blanks d after htext hblanks := by
    cases hd : isDigit d with
    | false => rfl
    | true =>
      have hsigned := h.sign
      rw [htext, signed_of_parts hblanks hd] at hsigned
      cases hsigned
  unit hstands := by
    obtain ⟨w, hw, hspells⟩ := mem_runs_of_stands hf.unit_ne hf.unit hstands
    exact h.words w hw (.inl (.inl hspells))
  units hstands := by
    obtain ⟨w, hw, hspells⟩ := mem_runs_of_stands (by simp) (by simp [hf.unit]) hstands
    exact h.words w hw (.inl (.inr hspells))
  code hstands := by
    obtain ⟨w, hw, hspells⟩ := mem_runs_of_stands hf.code_ne hf.code hstands
    exact h.words w hw (.inr hspells)

theorem unmarked_of_differ (h : f.Differ t) (text : String) (limit : Int) :
    f.Unmarked (tidy text t.symbol limit) := by
  have hpairs := clean_clarifyPairs h (clean_correctCurrency h text)
  have hcut := clean_cutOffTopic h.from_lettered hpairs
  exact (clean_capWords h.from_lettered hcut limit).unmarked h.from_lettered

/-- A reply in rupees has no mark of dollars, and a reply in dollars none of rupees. -/
theorem unmarked_tidy (text : String) (limit : Int) :
    Currency.dollar.Unmarked (tidy text Currency.rupee.symbol limit) ∧
      Currency.rupee.Unmarked (tidy text Currency.dollar.symbol limit) :=
  ⟨unmarked_of_differ Currency.differ_dollar_rupee text limit,
    unmarked_of_differ Currency.differ_rupee_dollar text limit⟩

end

end Reply

end SalesDesk
