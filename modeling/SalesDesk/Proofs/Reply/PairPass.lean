import SalesDesk.Proofs.Reply.Pairs

/-!
A pass over a text that makes pairs of amounts clear, from left to right. It changes nothing exactly
if no pair stands in the text, and it goes over any piece in which no amount begins; the piece then
stands in the text where it stands in what the pass makes of it, and the other way round.
-/
namespace SalesDesk.Reply

open Text

section
variable {symbol cs rest first second : List Char} {c : Char}

def clarified (symbol cs : List Char) : List Char := replace (pairStep symbol) cs

theorem toList_clarifyPairs (text symbol : String) :
    (clarifyPairs text symbol).toList = clarified symbol.toList text.toList := String.toList_ofList

theorem replaceFrom_pairStep (symbol : List Char) (skip : Nat) (before : Option Char)
    (cs : List Char) : replaceFrom (pairStep symbol) skip before cs =
      replaceFrom (pairStep symbol) skip none cs := by
  cases cs <;> rfl

theorem pairStep_eq_none_iff {before : Option Char} :
    pairStep symbol before cs = none ↔ takePair? symbol cs = none := by
  rw [pairStep]
  cases takePair? symbol cs with
  | none => exact iff_of_true rfl rfl
  | some found => exact iff_of_false nofun nofun

theorem clarified_of_none (h : takePair? symbol (c :: rest) = none) :
    clarified symbol (c :: rest) = c :: clarified symbol rest := by
  rw [clarified, replace, replaceFrom_of_none (pairStep_eq_none_iff.mpr h), replaceFrom_pairStep]
  rfl

theorem clarified_of_some (h : takePair? symbol cs = some (first, second, rest)) :
    ∃ ending, PairEnd symbol first second ending ∧
      clarified symbol cs = symbol ++ first ++ ending ++ clarified symbol rest := by
  have hsome : pairStep symbol none cs ≠ none := by
    rw [Ne, pairStep_eq_none_iff, h]
    exact nofun
  obtain ⟨⟨taken, replacement⟩, hstep⟩ := Option.ne_none_iff_exists'.mp hsome
  obtain ⟨first', blanks, second', rest', ending, hcs, hpair, hispair, rfl, rfl, hending⟩ :=
    pairStep_eq_some hstep
  obtain ⟨rfl, rfl, rfl⟩ : first' = first ∧ second' = second ∧ rest' = rest := by
    simpa using hpair.symm.trans h
  have hpiece : symbol ++ first' ++ (blanks ++ bracketed symbol second') ≠ [] := by
    simp [hispair.first.ne_nil]
  refine ⟨ending, hending, ?_⟩
  rw [hcs] at hstep ⊢
  rw [clarified, replace, replaceFrom_of_some hpiece hstep, replaceFrom_pairStep]
  rfl

end

/-- A pair of amounts stands in the text. -/
def HasPair (symbol cs : List Char) : Prop :=
  ∃ start first blanks second rest, IsPair symbol first blanks second ∧
    cs = start ++ (symbol ++ first ++ (blanks ++ bracketed symbol second) ++ rest)

section
variable {symbol cs out piece rest first blanks second ending : List Char} {c : Char}

theorem not_hasPair_nil : ¬HasPair symbol [] := by
  rintro ⟨start, first, blanks, second, rest, hpair, hcs⟩
  simp [hpair.first.ne_nil] at hcs

theorem hasPair_cons_iff (h : takePair? symbol (c :: cs) = none) :
    HasPair symbol (c :: cs) ↔ HasPair symbol cs := by
  constructor
  · rintro ⟨_ | ⟨d, start⟩, first, blanks, second, rest, hpair, hcs⟩
    · rw [hcs, List.nil_append, takePair?_append hpair] at h
      cases h
    · exact ⟨start, first, blanks, second, rest, hpair, List.tail_eq_of_cons_eq hcs⟩
  · rintro ⟨start, first, blanks, second, rest, hpair, rfl⟩
    exact ⟨c :: start, first, blanks, second, rest, hpair, rfl⟩

/-- One text has fewer digits than the other, or as many and more characters that are no blanks. -/
def Outweighs (out cs : List Char) : Prop :=
  out.countP isDigit < cs.countP isDigit ∨
    out.countP isDigit = cs.countP isDigit ∧ cs.countP (!isBlank ·) < out.countP (!isBlank ·)

theorem Outweighs.ne (h : Outweighs out cs) : out ≠ cs := by
  rintro rfl
  rcases h with h | h
  · exact Nat.lt_irrefl _ h
  · exact Nat.lt_irrefl _ h.2

theorem Outweighs.cons (h : Outweighs out cs) (c : Char) : Outweighs (c :: out) (c :: cs) := by
  unfold Outweighs at *
  simp only [List.countP_cons]
  omega

theorem countP_bracketed (belongs : Char → Bool) (symbol second : List Char) :
    (bracketed symbol second).countP belongs =
      ['(', ')'].countP belongs + symbol.countP belongs + second.countP belongs := by
  simp only [bracketed, List.countP_cons, List.countP_append, List.countP_nil]
  omega

/-- What stands in the place of a pair outweighs it, and goes on doing so before a rest that is not
outweighed itself. -/
theorem outweighs_pair (hpair : IsPair symbol first blanks second)
    (hending : PairEnd symbol first second ending) (h : out = rest ∨ Outweighs out rest) :
    Outweighs (symbol ++ first ++ ending ++ out)
      (symbol ++ first ++ (blanks ++ bracketed symbol second) ++ rest) := by
  have hblanks := List.all_eq_true.mp hpair.blanks
  have hnone : blanks.countP isDigit = 0 :=
    List.countP_eq_zero.mpr fun b hb => by simp [isDigit_of_isBlank (hblanks b hb)]
  have hnone' : blanks.countP (!isBlank ·) = 0 :=
    List.countP_eq_zero.mpr fun b hb => by simp [hblanks b hb]
  have hsecond : 0 < second.countP isDigit := by
    obtain ⟨d, more, rfl⟩ := List.exists_cons_of_ne_nil hpair.second.ne_nil
    exact List.countP_pos_iff.mpr ⟨d, List.mem_cons_self, hpair.second.first⟩
  have hrest : out.countP isDigit < rest.countP isDigit ∨
      out.countP isDigit = rest.countP isDigit ∧
        rest.countP (!isBlank ·) ≤ out.countP (!isBlank ·) := by
    rcases h with rfl | h | h
    · exact .inr ⟨rfl, Nat.le_refl _⟩
    · exact .inl h
    · exact .inr ⟨h.1, Nat.le_of_lt h.2⟩
  have hbrackets : ['(', ')'].countP isDigit = 0 ∧ ['(', ')'].countP (!isBlank ·) = 2 := by decide
  unfold Outweighs
  simp only [List.countP_append, countP_bracketed]
  rw [hnone, hnone']
  cases hending with
  | dropped _ =>
    left
    rw [List.countP_nil]
    omega
  | profit _ =>
    have hopening : " (Profit: ".toList.countP isDigit = 0 ∧
        " (Profit: ".toList.countP (!isBlank ·) = 8 := by decide
    have hclosing : [')'].countP isDigit = 0 ∧ [')'].countP (!isBlank ·) = 1 := by decide
    simp only [List.countP_append]
    omega

theorem changes_of_rewritten {before : Option Char}
    (h : Rewritten (pairStep symbol) before cs out) :
    out = cs ∧ ¬HasPair symbol cs ∨ Outweighs out cs ∧ HasPair symbol cs := by
  induction h with
  | done => exact .inl ⟨rfl, not_hasPair_nil⟩
  | @keep before c rest out hstep _ ih =>
    rw [pairStep_eq_none_iff] at hstep
    rw [hasPair_cons_iff hstep]
    exact ih.imp (And.imp_left (congrArg (c :: ·))) (And.imp_left (Outweighs.cons · c))
  | @take before piece replacement rest out _ hstep _ ih =>
    obtain ⟨first, blanks, second, more, ending, hcs, -, hpair, hlength, rfl, hending⟩ :=
      pairStep_eq_some hstep
    obtain ⟨rfl, rfl⟩ := List.append_inj hcs hlength
    exact .inr ⟨outweighs_pair hpair hending (ih.imp And.left And.left),
      [], first, blanks, second, rest, hpair, rfl⟩

theorem clarified_eq_self_iff : clarified symbol cs = cs ↔ ¬HasPair symbol cs := by
  rcases changes_of_rewritten (rewritten_replace (takes_pairStep symbol) cs) with h | h
  · exact iff_of_true h.1 h.2
  · exact iff_of_false h.1.ne (not_not_intro h.2)

end

def BeginsAmount (symbol cs : List Char) : Prop :=
  ∃ d rest, isDigit d = true ∧ cs = symbol ++ d :: rest

def BeginsNone (symbol : List Char) : List Char → List Char → Prop
  | [], _ => True
  | c :: cs, rest => ¬BeginsAmount symbol (c :: (cs ++ rest)) ∧ BeginsNone symbol cs rest

section
variable {symbol cs xs ys rest amount : List Char} {c : Char}

theorem beginsAmount_of_isAmount (h : IsAmount amount) (rest : List Char) :
    BeginsAmount symbol (symbol ++ amount ++ rest) := by
  obtain ⟨d, more, rfl⟩ := List.exists_cons_of_ne_nil h.ne_nil
  exact ⟨d, more ++ rest, h.first, by simp⟩

theorem beginsAmount_of_some {found : List Char × List Char × List Char}
    (h : takePair? symbol cs = some found) :
    BeginsAmount symbol cs ∧ BeginsAmount symbol (clarified symbol cs) := by
  obtain ⟨first, second, rest⟩ := found
  obtain ⟨blanks, hcs, hpair⟩ := takePair?_eq_some h
  obtain ⟨ending, -, hout⟩ := clarified_of_some h
  rw [hout, hcs, List.append_assoc, List.append_assoc (symbol ++ first)]
  exact ⟨beginsAmount_of_isAmount hpair.first _, beginsAmount_of_isAmount hpair.first _⟩

theorem beginsNone_append : BeginsNone symbol (xs ++ ys) rest ↔
    BeginsNone symbol xs (ys ++ rest) ∧ BeginsNone symbol ys rest := by
  induction xs with
  | nil => exact (and_iff_right trivial).symm
  | cons c xs ih => rw [List.cons_append, BeginsNone, BeginsNone, ih, List.append_assoc, and_assoc]

theorem BeginsNone.not_begins (h : BeginsNone symbol (xs ++ ys) rest) (hne : ys ≠ []) :
    ¬BeginsAmount symbol (ys ++ rest) := by
  obtain ⟨c, more, rfl⟩ := List.exists_cons_of_ne_nil hne
  exact (beginsNone_append.mp h).2.1

/-- A pass goes over a piece in which no amount begins. -/
theorem clarified_append (h : BeginsNone symbol xs rest) :
    clarified symbol (xs ++ rest) = xs ++ clarified symbol rest := by
  induction xs with
  | nil => rfl
  | cons c xs ih =>
    cases hpair : takePair? symbol (c :: (xs ++ rest)) with
    | none => rw [List.cons_append, clarified_of_none hpair, ih h.2, List.cons_append]
    | some found => exact absurd (beginsAmount_of_some hpair).1 h.1

/-- Where a pass leaves a piece in which no amount begins, the piece stood before. -/
theorem exists_of_clarified_eq_append (h : BeginsNone symbol xs rest)
    (hcs : clarified symbol cs = xs ++ rest) :
    ∃ rest', cs = xs ++ rest' ∧ clarified symbol rest' = rest := by
  induction xs generalizing cs with
  | nil => exact ⟨cs, rfl, hcs⟩
  | cons c xs ih =>
    cases cs with
    | nil => cases hcs
    | cons d cs =>
      cases hpair : takePair? symbol (d :: cs) with
      | none =>
        rw [clarified_of_none hpair, List.cons_append, List.cons_eq_cons] at hcs
        obtain ⟨rest', rfl, hrest'⟩ := ih h.2 hcs.2
        exact ⟨rest', by rw [hcs.1, List.cons_append], hrest'⟩
      | some found =>
        have hbegins := (beginsAmount_of_some hpair).2
        rw [hcs] at hbegins
        exact absurd hbegins h.1

end

end SalesDesk.Reply
