import SalesDesk.Proofs.Text.Words

/-!
The places of a text, one after another. A phrase stands whole where the text splits around it with
no word character on either side, and the words of a text are read off where they begin.
-/
namespace SalesDesk.Text

/-- The places of a text in order, each with the character before it and the text from it on. -/
def places (before : Option Char) : List Char → List (Option Char × List Char)
  | [] => [(before, [])]
  | c :: rest => (before, c :: rest) :: places (some c) rest

theorem mem_places {before : Option Char} {cs : List Char} {p : Option Char × List Char} :
    p ∈ places before cs ↔
      ∃ start rest, cs = start ++ rest ∧ p = (start.getLast?.or before, rest) := by
  induction cs generalizing before with
  | nil =>
    rw [places, List.mem_singleton]
    constructor
    · rintro rfl
      exact ⟨[], [], rfl, rfl⟩
    · rintro ⟨start, rest, hsplit, rfl⟩
      obtain ⟨rfl, rfl⟩ := List.append_eq_nil_iff.mp hsplit.symm
      rfl
  | cons c cs ih =>
    rw [places, List.mem_cons, ih]
    constructor
    · rintro (rfl | ⟨start, rest, rfl, rfl⟩)
      · exact ⟨[], c :: cs, rfl, rfl⟩
      · exact ⟨c :: start, rest, rfl, by rw [getLast?_or_some c start before]⟩
    · rintro ⟨start, rest, hsplit, rfl⟩
      cases start with
      | nil =>
        rw [List.nil_append] at hsplit
        exact .inl (by rw [← hsplit]; rfl)
      | cons d start =>
        obtain ⟨rfl, rfl⟩ := List.cons_eq_cons.mp hsplit
        exact .inr ⟨start, rest, rfl, by rw [getLast?_or_some c start before]⟩

theorem anyPlace_eq_any (test : Option Char → List Char → Bool) (before : Option Char)
    (cs : List Char) : anyPlace test before cs = (places before cs).any fun p => test p.1 p.2 := by
  induction cs generalizing before with
  | nil => simp [anyPlace, places]
  | cons c rest ih => simp [anyPlace, places, ih]

/-- A phrase occurs as a whole where the text splits around it, between no word characters. -/
theorem hasPhrase_iff {text phrase : String} : hasPhrase text phrase = true ↔
    phrase ≠ "" ∧ ∃ start rest, text.toList = start ++ phrase.toList ++ rest ∧
      wordAt start.getLast? = false ∧ wordAt rest.head? = false := by
  have hhere : ∀ before cs, phraseHere phrase.toList before cs = true ↔
      ∃ rest, cs = phrase.toList ++ rest ∧ wordAt before = false ∧ wordAt rest.head? = false := by
    intro before cs
    simp only [phraseHere, Bool.and_eq_true, Bool.not_eq_true', List.isPrefixOf_iff_prefix]
    constructor
    · rintro ⟨⟨hbefore, rest, rfl⟩, hrest⟩
      rw [List.drop_left] at hrest
      exact ⟨rest, rfl, hbefore, hrest⟩
    · rintro ⟨rest, rfl, hbefore, hrest⟩
      refine ⟨⟨hbefore, List.prefix_append _ _⟩, ?_⟩
      rwa [List.drop_left]
  simp only [hasPhrase, Bool.and_eq_true, Bool.not_eq_true', String.isEmpty_eq_false_iff,
    anyPlace_eq_any, List.any_eq_true, mem_places, hhere]
  refine and_congr_right fun _ => ⟨?_, ?_⟩
  · rintro ⟨p, ⟨start, rest, hsplit, rfl⟩, more, rfl, hbefore, hrest⟩
    rw [Option.or_none] at hbefore
    exact ⟨start, more, by rw [hsplit, List.append_assoc], hbefore, hrest⟩
  · rintro ⟨start, rest, hsplit, hbefore, hrest⟩
    refine ⟨(start.getLast?.or none, phrase.toList ++ rest),
      ⟨start, _, by rw [hsplit, List.append_assoc], rfl⟩, rest, rfl, ?_, hrest⟩
    rwa [Option.or_none]

/-- A word stands whole exactly where a word begins that is this one. -/
theorem phraseHere_eq_beq {phrase : List Char} (h : phrase.all isWord = true)
    (before : Option Char) (cs : List Char) :
    phraseHere phrase before cs = (!wordAt before && cs.takeWhile isWord == phrase) := by
  rw [phraseHere, Bool.and_assoc]
  congr 1
  rw [Bool.eq_iff_iff, Bool.and_eq_true, Bool.not_eq_true', List.isPrefixOf_iff_prefix, beq_iff_eq]
  constructor
  · rintro ⟨⟨rest, rfl⟩, hrest⟩
    rw [List.drop_left] at hrest
    exact takeWhile_of_run h hrest
  · intro htake
    have hsplit : phrase ++ cs.dropWhile isWord = cs := by
      rw [← htake, List.takeWhile_append_dropWhile]
    refine ⟨⟨_, hsplit⟩, ?_⟩
    rw [← hsplit, List.drop_left]
    exact any_head?_dropWhile isWord cs

theorem runs_cons_word {c : Char} (hc : isWord c = true) (cs : List Char) :
    runs isWord (c :: cs) = (c :: cs.takeWhile isWord) :: runs isWord (cs.dropWhile isWord) := by
  obtain ⟨w, rest, hsplit, hne, hw, hrest⟩ := exists_run hc cs
  have htake : c :: cs.takeWhile isWord = w := by
    rw [← List.takeWhile_cons_of_pos hc, hsplit, takeWhile_of_run hw hrest]
  have hdrop : cs.dropWhile isWord = rest := by
    have hboth := List.takeWhile_append_dropWhile (p := isWord) (l := cs)
    rw [← hboth, ← List.cons_append, htake] at hsplit
    exact List.append_cancel_left hsplit
  rw [htake, hdrop, hsplit, runs_append_run hne hw hrest]

/-- What is read off the word that begins at each place is read off the words of the text. -/
theorem flatMap_places {β : Type} {f : List Char → List β} (hf : f [] = []) (cs : List Char) :
    ((places none cs).flatMap fun p => if wordAt p.1 then [] else f (p.2.takeWhile isWord)) =
      (runs isWord cs).flatMap f := by
  -- Behind a word character the rest of its word has been read already.
  have hafter : ∀ before, ((places before cs).flatMap fun p =>
      if wordAt p.1 then [] else f (p.2.takeWhile isWord)) =
        (runs isWord (if wordAt before then cs.dropWhile isWord else cs)).flatMap f := by
    induction cs with
    | nil =>
      intro before
      cases wordAt before <;> simp [places, hf, runs, splitOn]
    | cons c rest ih =>
      intro before
      have hplace : wordAt (some c) = isWord c := rfl
      rw [places, List.flatMap_cons, ih (some c), hplace]
      cases hc : isWord c with
      | true =>
        rw [List.takeWhile_cons_of_pos hc, List.dropWhile_cons_of_pos hc]
        cases wordAt before <;> simp [runs_cons_word hc]
      | false =>
        have hnot : ¬isWord c = true := by simp [hc]
        rw [List.takeWhile_cons_of_neg hnot, List.dropWhile_cons_of_neg hnot]
        cases wordAt before <;> simp [hf, runs_cons hc]
  exact hafter none

end SalesDesk.Text
