import SalesDesk.Proofs.Reply.Cuts
import SalesDesk.Proofs.Reply.Pairs

/-!
The numbers of a reply. Changing the currency keeps all of them. The second amount of a pair, and
what is cut off, may go, but no other number comes in, unless a dropped amount stood between two
parts of one, or the cut goes through the point of one.
-/
namespace SalesDesk

open Text

namespace Currency

variable {sign : Char} {step : Step} {before : Option Char} {cs out : List Char}

/-- Whatever is swapped, the same numbers are read. -/
theorem readsAs_of_rewritten (h : Swapping sign step) (hcs : Rewritten step before cs out) :
    ReadsAs Eq cs out := by
  have hcons : ∀ (n : List Char) xs ys, xs = ys → n :: xs = n :: ys := fun n _ _ =>
    congrArg (n :: ·)
  induction hcs with
  | done => exact .nil rfl
  | keep _ _ ih => exact ih.cons hcons _
  | take _ hstep _ ih =>
    obtain ⟨digits, old, new, rfl, rfl, -, hold, hold', hnew', hshown, -⟩ := (h.swaps hstep).parts
    have hnew : new ≠ [] := by
      rintro rfl
      cases hshown
    rw [List.append_assoc, List.append_assoc]
    exact (ih.swap hold hnew hold' hnew').append_left hcons digits

theorem numbersIn_replace (h : Swapping sign step) (cs : List Char) :
    numbersIn (replace step cs) = numbersIn cs :=
  (readsAs_of_rewritten h (rewritten_replace h.takes cs)).later .outside

theorem numbersIn_foldl_replace {steps : List Step} (h : ∀ step ∈ steps, Swapping sign step)
    (cs : List Char) :
    numbersIn (steps.foldl (fun cs step => replace step cs) cs) = numbersIn cs := by
  induction steps generalizing cs with
  | nil => rfl
  | cons step rest ih =>
    obtain ⟨hstep, hrest⟩ := List.forall_mem_cons.mp h
    rw [List.foldl_cons, ih hrest, numbersIn_replace hstep]

theorem other_cases {c : Currency} {symbol : String} (h : ofSymbol? symbol = some c) :
    c.Lettered ∧ c.other.Lettered ∧ c.other.sign ≠ c.sign := by
  have hmem : c ∈ [rupee, dollar] := List.mem_of_find?_eq_some h
  rcases List.mem_cons.mp hmem with rfl | hmem
  · exact ⟨lettered_rupee, lettered_dollar, by decide⟩
  · obtain rfl := List.mem_singleton.mp hmem
    exact ⟨lettered_dollar, lettered_rupee, by decide⟩

end Currency

namespace Reply

theorem numbersIn_correctCurrency (text symbol : String) :
    numbersIn (correctCurrency text symbol).toList = numbersIn text.toList := by
  unfold correctCurrency
  split
  · rfl
  · rename_i c hc
    obtain ⟨ht, hf, hne⟩ := Currency.other_cases hc
    rw [String.toList_ofList]
    exact Currency.numbersIn_foldl_replace
      (fun _ hstep => Currency.swapping_of_mem_steps hf ht hne hstep) _

/-- A pair in a text whose second amount is dropped stands right before more of a number. -/
def DropsBeforeNumber (symbol cs : List Char) : Prop :=
  ∃ before here first second rest, cs = before ++ here ∧
    takePair? symbol here = some (first, second, rest) ∧ ¬KeepsSecond first second ∧
    goesOn rest = true

theorem DropsBeforeNumber.append_left {symbol cs : List Char} (h : DropsBeforeNumber symbol cs)
    (start : List Char) : DropsBeforeNumber symbol (start ++ cs) := by
  obtain ⟨before, here, first, second, rest, rfl, h⟩ := h
  exact ⟨start ++ before, here, first, second, rest, (List.append_assoc ..).symm, h⟩

theorem goesOn_append {lead : List Char} (h : lead.any isDigit = true) (more : List Char) :
    goesOn (lead ++ more) = goesOn lead := by
  match lead, h with
  | [c], h =>
    have hc : isDigit c = true := by simpa using h
    simp [goesOn, hc]
  | c :: d :: rest, _ => rfl

section
variable {symbol first blanks second rest out : List Char}

theorem readsAs_dropped (hpair : IsPair symbol first blanks second)
    (h : ReadsAs List.Sublist rest out) (hrest : goesOn rest = false) :
    ReadsAs List.Sublist (symbol ++ first ++ (blanks ++ bracketed symbol second) ++ rest)
      (symbol ++ first ++ out) := by
  have hdigit : (symbol ++ first).any isDigit = true := by
    obtain ⟨d, more, rfl⟩ := List.exists_cons_of_ne_nil hpair.first.ne_nil
    have hd : isDigit d = true := hpair.first.first
    simp [hd]
  have hout : goesOn out = false := h.goesOn.trans hrest
  have hgone : goesOn ((blanks ++ bracketed symbol second) ++ rest) = false := by
    cases blanks with
    | nil => exact goesOn_cons_of_not_numeral (by decide) _
    | cons b more =>
      have hb := (Bool.and_eq_true_iff.mp hpair.blanks).1
      exact goesOn_cons_of_not_numeral (isNumeral_of_isBlank hb) _
  have hnumbers : (numbersIn out).Sublist
      (numbersIn ((blanks ++ bracketed symbol second) ++ rest)) := by
    have hsplit : (blanks ++ bracketed symbol second) ++ rest =
        (blanks ++ '(' :: (symbol ++ second)) ++ ')' :: rest := by simp [bracketed]
    rw [hsplit, numbersIn_append_cons (by decide)]
    exact (h.later .outside).trans (List.sublist_append_right _ _)
  rw [List.append_assoc]
  refine ⟨fun p => ?_, fun p => ?_, ?_, ?_⟩
  · rw [scan_append p hout, scan_append p hgone]
  · rw [scan_append p hout, scan_append p hgone]
    exact hnumbers.append_left _
  · obtain ⟨c, more, hlead⟩ := List.exists_cons_of_ne_nil (l := symbol ++ first)
      (by simp [hpair.first.ne_nil])
    rw [hlead]
    rfl
  · rw [goesOn_append hdigit, goesOn_append hdigit]

theorem readsAs_profit (hpair : IsPair symbol first blanks second)
    (h : ReadsAs List.Sublist rest out) :
    ReadsAs List.Sublist (symbol ++ first ++ (blanks ++ bracketed symbol second) ++ rest)
      (symbol ++ first ++ (" (Profit: ".toList ++ symbol ++ second ++ [')']) ++ out) := by
  have hcons : ∀ (n : List Char) xs ys, List.Sublist xs ys → List.Sublist (n :: xs) (n :: ys) :=
    fun n _ _ => List.Sublist.cons_cons n
  have hsplit : symbol ++ first ++ (blanks ++ bracketed symbol second) ++ rest =
      (symbol ++ first) ++ ((blanks ++ ['(']) ++ ((symbol ++ second ++ [')']) ++ rest)) := by
    simp [bracketed]
  have hsplit' : symbol ++ first ++ (" (Profit: ".toList ++ symbol ++ second ++ [')']) ++ out =
      (symbol ++ first) ++ (" (Profit: ".toList ++ ((symbol ++ second ++ [')']) ++ out)) := by
    simp
  rw [hsplit, hsplit']
  apply ReadsAs.append_left hcons
  apply (h.append_left hcons _).swap
  · simp
  · decide
  · rw [List.any_append, Currency.any_isNumeral_of_blanks hpair.blanks]
    decide
  · decide

end

/-- Pairs lose second amounts only, unless one of them stands right before more of a number. -/
theorem readsAs_pairs {symbol : List Char} {before : Option Char} {cs out : List Char}
    (h : Rewritten (pairStep symbol) before cs out) :
    DropsBeforeNumber symbol cs ∨ ReadsAs List.Sublist cs out := by
  induction h with
  | done => exact .inr (.nil .slnil)
  | keep _ _ ih =>
    rcases ih with hdrops | hreads
    · exact .inl (hdrops.append_left [_])
    · exact .inr (hreads.cons (fun n _ _ => List.Sublist.cons_cons n) _)
  | @take before piece replacement rest out _ hstep _ ih =>
    obtain ⟨first, blanks, second, more, ending, hcs, htake, hpair, hlength, rfl, hend⟩ :=
      pairStep_eq_some hstep
    obtain ⟨rfl, rfl⟩ := List.append_inj hcs hlength
    rcases ih with hdrops | hreads
    · exact .inl (hdrops.append_left _)
    · cases hend with
      | profit _ => exact .inr (readsAs_profit hpair hreads)
      | dropped hsmall =>
        rw [List.append_nil]
        cases hgoes : goesOn rest with
        | true => exact .inl ⟨[], _, first, second, rest, rfl, htake, hsmall, hgoes⟩
        | false => exact .inr (readsAs_dropped hpair hreads hgoes)

theorem numbersIn_clarifyPairs (text symbol : String) :
    DropsBeforeNumber symbol.toList text.toList ∨
      (numbersIn (clarifyPairs text symbol).toList).Sublist (numbersIn text.toList) := by
  rw [clarifyPairs, String.toList_ofList]
  rcases readsAs_pairs (rewritten_replace (takes_pairStep symbol.toList) text.toList) with h | h
  · exact .inl h
  · exact .inr (h.later .outside)

theorem apartAtBlanks_numbersIn : ApartAtBlanks numbersIn where
  nil := rfl
  append before _ _ hb := numbersIn_append_cons (isNumeral_of_isBlank hb) before _

/-- The reply is cut at the point of a number. -/
def CutsNumber (text : String) : Prop :=
  ∃ before after, text.toList = before ++ '.' :: after ∧ before.getLast?.any isDigit = true ∧
    after.head?.any isDigit = true ∧ (cutOffTopic text).toList = stripChars (before ++ ['.'])

/-- The numbers before the end of a sentence, unless it is the point of a number. -/
theorem prefix_numbersIn_of_end {start rest : List Char} {e : Char} (he : endsSentence e = true)
    (h : ¬(e = '.' ∧ start.getLast?.any isDigit = true ∧ rest.head?.any isDigit = true)) :
    numbersIn (start ++ [e]) <+: numbersIn (start ++ e :: rest) := by
  have hmarks : e = '.' ∨ isNumeral e = false := by
    have hall : ['.', '\n', '!', '?'].all (fun c => c == '.' || !isNumeral c) = true := by decide
    simpa using List.all_eq_true.mp hall e (List.contains_iff_mem.mp he)
  rcases hmarks with rfl | he
  · have hkept : numbersIn (start ++ ['.']) = numbersIn start := by
      rw [numbersIn_append (by decide)]
      exact List.append_nil _
    rw [hkept]
    cases hhead : rest.head?.any isDigit with
    | false =>
      have hgoes : goesOn ('.' :: rest) = false := by simp [goesOn, hhead, isDigit, digitValue?]
      rw [numbersIn_append hgoes]
      exact List.prefix_append _ _
    | true =>
      cases hlast : start.getLast? with
      | none =>
        rw [List.getLast?_eq_none_iff.mp hlast]
        exact List.nil_prefix
      | some c =>
        have hc : isDigit c = false := by
          cases hc : isDigit c with
          | false => rfl
          | true => exact absurd ⟨rfl, by rw [hlast]; exact hc, hhead⟩ h
        have hpoint : ('.' :: rest).head?.any isDigit = false := rfl
        rw [numbersIn, numbersIn, scan_append_of_last .outside (by rw [hlast]; simp [hc]) hpoint]
        exact List.prefix_append _ _
  · rw [numbersIn_append_cons he, numbersIn_append_cons he]
    exact (List.append_nil _ ▸ List.prefix_append _ _)

theorem numbersIn_cutOffTopic (text : String) : CutsNumber text ∨
    numbersIn (cutOffTopic text).toList <+: numbersIn text.toList := by
  rcases cutOffTopic_cases text with h | ⟨start, e, rest, htext, he, hcut⟩
  · rw [h]
    exact .inr List.prefix_rfl
  · by_cases hpoint : e = '.' ∧ start.getLast?.any isDigit = true ∧ rest.head?.any isDigit = true
    · obtain ⟨rfl, hlast, hhead⟩ := hpoint
      exact .inl ⟨start, rest, htext, hlast, hhead, hcut⟩
    · rw [hcut, apartAtBlanks_numbersIn.stripChars, htext]
      exact .inr (prefix_numbersIn_of_end he hpoint)

theorem numbersIn_capWords (text : String) (limit : Int) :
    numbersIn (capWords text limit).toList <+: numbersIn text.toList := by
  rcases capWords_cases text limit with h | ⟨start, h, hstart⟩
  · exact h.symm ▸ List.prefix_rfl
  · have hdots : numbersIn (start ++ "...").toList = numbersIn start.toList := by
      rw [String.toList_append, numbersIn_append (by decide)]
      exact List.append_nil _
    rw [h, hdots]
    exact hstart apartAtBlanks_numbersIn

/-- The numbers of a reply are some of those of the text, in their order, unless an amount was
dropped right before more of a number or the cut went through the point of one. -/
theorem numbersIn_tidy (text symbol : String) (limit : Int) :
    (numbersIn (tidy text symbol limit).toList).Sublist (numbersIn text.toList) ∨
      DropsBeforeNumber symbol.toList (correctCurrency text symbol).toList ∨
      CutsNumber (clarifyPairs (correctCurrency text symbol) symbol) := by
  have hcap := numbersIn_capWords
    (cutOffTopic (clarifyPairs (correctCurrency text symbol) symbol)) limit
  rcases numbersIn_clarifyPairs (correctCurrency text symbol) symbol with hdrops | hpairs
  · exact .inr (.inl hdrops)
  rcases numbersIn_cutOffTopic (clarifyPairs (correctCurrency text symbol) symbol) with hcut | hcut
  · exact .inr (.inr hcut)
  left
  rw [← numbersIn_correctCurrency text symbol]
  exact (hcap.trans hcut).sublist.trans hpairs

/-- An amount right after a pair. -/
def gluedReply : String := "Revenue ₹100 (₹100)50"

/-- A figure with a fraction before another subject. -/
def cutReply : String := "Acme led April with strong steel rod orders this month. Up 3.5 python"

/-- Both replies have a number that their texts do not have. -/
theorem riskyReplies_numbers :
    ¬(numbersIn (tidy gluedReply "₹" 200).toList).Sublist (numbersIn gluedReply.toList) ∧
      ¬(numbersIn (tidy cutReply "₹" 200).toList).Sublist (numbersIn cutReply.toList) := by
  decide +kernel

end Reply

end SalesDesk
