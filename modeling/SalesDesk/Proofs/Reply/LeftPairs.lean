import SalesDesk.Proofs.Reply.PairPass

/-!
The pairs of amounts that are left when pairs have been made clear. One pass does not see the pairs
that it makes itself: an amount that loses its second one may stand before another bracket, or in
one.
-/
namespace SalesDesk.Reply

open Text

/-- A symbol without digits that neither goes on with an amount nor closes a bracket. -/
structure Plain (symbol : List Char) : Prop where
  ne_nil : symbol ≠ []
  digitless : symbol.any isDigit = false
  ne_comma : symbol.head? ≠ some ','
  ne_close : symbol.head? ≠ some ')'
  ne_point : symbol ≠ ['.']

section
variable {symbol cs xs ys rest rest' amount amount' gap : List Char} {c d e : Char}

/-- What stands before the first digit of a text is given by the text. -/
theorem digitless_unique (hxs : xs.any isDigit = false) (hys : ys.any isDigit = false)
    (hd : isDigit d = true) (he : isDigit e = true) (h : xs ++ d :: rest = ys ++ e :: rest') :
    xs = ys := by
  have hnot : ∀ {zs : List Char}, zs.any isDigit = false → zs.all (!isDigit ·) = true := by
    intro zs hzs
    simpa using hzs
  have hhead : ∀ {z : Char} (more : List Char), isDigit z = true →
      (z :: more).head?.any (!isDigit ·) = false := by
    intro z more hz
    simp [hz]
  rw [← takeWhile_of_run (hnot hxs) (hhead rest hd), h,
    takeWhile_of_run (hnot hys) (hhead rest' he)]

/-- An amount that the text does not go on with is given by the text. -/
theorem amount_unique (ha : IsAmount amount) (ha' : IsAmount amount')
    (hrest : rest.head?.any isNumeral = false) (hrest' : rest'.head?.any isNumeral = false)
    (h : amount ++ rest = amount' ++ rest') : amount = amount' ∧ rest = rest' := by
  have hboth := takeAmount?_append ha hrest
  rw [h, takeAmount?_append ha' hrest'] at hboth
  cases hboth
  exact ⟨rfl, rfl⟩

/-- An amount that the text does not go on with begins with any numerals that the text begins
with. -/
theorem exists_of_numerals_append (hnumerals : xs.all isNumeral = true)
    (hrest : rest.head?.any isNumeral = false) (h : xs ++ ys = amount ++ rest) :
    ∃ more, amount = xs ++ more ∧ ys = more ++ rest := by
  rcases List.append_eq_append_iff.mp h with hlonger | ⟨bs, hxs, hbs⟩
  · exact hlonger
  · cases bs with
    | nil => exact ⟨[], by simpa using hxs.symm, by simpa using hbs.symm⟩
    | cons b bs =>
      have hb : isNumeral b = true := List.all_eq_true.mp hnumerals b (by simp [hxs])
      rw [hbs] at hrest
      exact absurd hb (Bool.eq_false_iff.mp hrest)

namespace Plain

theorem not_isDigit (h : Plain symbol) (hc : c ∈ symbol) : isDigit c = false := by
  have hnone := List.any_eq_false.mp h.digitless c hc
  simpa using hnone

/-- No amount begins with a digit or a comma before the symbol. -/
theorem not_begins_cons (h : Plain symbol) (hc : inWhole c = true) (cs : List Char) :
    ¬BeginsAmount symbol (c :: cs) := by
  rintro ⟨d, rest, -, hcs⟩
  obtain ⟨s, more, rfl⟩ := List.exists_cons_of_ne_nil h.ne_nil
  obtain ⟨rfl, -⟩ := List.cons_eq_cons.mp hcs
  rcases Bool.or_eq_true_iff.mp hc with hdigit | hcomma
  · rw [h.not_isDigit List.mem_cons_self] at hdigit
    cases hdigit
  · exact h.ne_comma (congrArg some (eq_of_beq hcomma))

theorem beginsNone_of_inWhole (h : Plain symbol) (hxs : xs.all inWhole = true)
    (rest : List Char) : BeginsNone symbol xs rest := by
  induction xs with
  | nil => trivial
  | cons c xs ih =>
    obtain ⟨hc, hxs⟩ := Bool.and_eq_true_iff.mp hxs
    exact ⟨h.not_begins_cons hc _, ih hxs⟩

/-- No amount with the symbol begins inside an amount. -/
theorem beginsNone_amount (h : Plain symbol) (ha : IsAmount amount) (rest : List Char) :
    BeginsNone symbol amount rest := by
  have hwhole : ∀ {d : Char} {ds : List Char} (rest : List Char), isDigit d = true →
      ds.all inWhole = true → BeginsNone symbol (d :: ds) rest := by
    intro d ds rest hd hds
    exact h.beginsNone_of_inWhole (by simp [inWhole, hd, ← hds]) rest
  have hdigits : ∀ {es : List Char}, es.all isDigit = true → es.all inWhole = true := by
    intro es hes
    exact List.all_eq_true.mpr fun c hc => by simp [inWhole, List.all_eq_true.mp hes c hc]
  cases ha with
  | whole hd hds => exact hwhole rest hd hds
  | @fraction d e ds es hd hds he hes =>
    refine beginsNone_append.mpr ⟨hwhole _ hd hds, ?_, hwhole _ he (hdigits hes)⟩
    -- the point would be the whole symbol, since a digit comes behind it
    rintro ⟨d', more, -, hcs⟩
    obtain ⟨s, symbol', rfl⟩ := List.exists_cons_of_ne_nil h.ne_nil
    obtain ⟨rfl, hmore⟩ := List.cons_eq_cons.mp hcs
    cases symbol' with
    | nil => exact h.ne_point rfl
    | cons s' symbol' =>
      obtain ⟨rfl, -⟩ := List.cons_eq_cons.mp hmore
      rw [h.not_isDigit (List.mem_cons_of_mem _ List.mem_cons_self)] at he
      cases he

/-- Before the first digit an amount begins with the symbol alone. -/
theorem begins_iff (h : Plain symbol) (hxs : xs.any isDigit = false) (hd : isDigit d = true) :
    BeginsAmount symbol (xs ++ d :: rest) ↔ xs = symbol := by
  constructor
  · rintro ⟨e, more, he, hcs⟩
    exact digitless_unique hxs h.digitless hd he hcs
  · rintro rfl
    exact ⟨d, rest, hd, rfl⟩

/-- No amount begins in what stands before the first digit, if it is too short for the symbol. -/
theorem beginsNone_of_short (h : Plain symbol) (hxs : xs.any isDigit = false)
    (hlength : xs.length < symbol.length) (hd : isDigit d = true) :
    BeginsNone symbol xs (d :: rest) := by
  induction xs with
  | nil => trivial
  | cons c xs ih =>
    obtain ⟨hc, hxs'⟩ := Bool.or_eq_false_iff.mp hxs
    refine ⟨fun hbegins => ?_, ih hxs' (Nat.lt_of_succ_lt hlength)⟩
    rw [← List.cons_append, h.begins_iff hxs hd] at hbegins
    rw [hbegins] at hlength
    exact Nat.lt_irrefl _ hlength

theorem beginsNone_gap (h : Plain symbol) (hxs : xs.any isDigit = false)
    (hd : isDigit d = true) : BeginsNone symbol xs (symbol ++ d :: rest) := by
  induction xs with
  | nil => trivial
  | cons c xs ih =>
    obtain ⟨hc, hxs'⟩ := Bool.or_eq_false_iff.mp hxs
    refine ⟨fun hbegins => ?_, ih hxs'⟩
    have hboth : (c :: xs ++ symbol).any isDigit = false := by
      rw [List.any_append, hxs, h.digitless]
      rfl
    rw [← List.append_assoc, ← List.cons_append, ← List.cons_append,
      h.begins_iff hboth hd] at hbegins
    have hlength := congrArg List.length hbegins
    rw [List.length_append, List.length_cons] at hlength
    omega

theorem beginsNone_close (h : Plain symbol) (rest : List Char) : BeginsNone symbol [')'] rest := by
  refine ⟨?_, trivial⟩
  rintro ⟨d, more, -, hcs⟩
  obtain ⟨s, symbol', rfl⟩ := List.exists_cons_of_ne_nil h.ne_nil
  exact h.ne_close (congrArg some (List.cons_eq_cons.mp hcs).1.symm)

/-- Behind its first character no amount begins in an amount with its symbol. -/
theorem beginsNone_tail (h : Plain symbol) (ha : IsAmount amount) (rest : List Char) :
    BeginsNone symbol (symbol.tail ++ amount) rest := by
  refine beginsNone_append.mpr ⟨?_, h.beginsNone_amount ha rest⟩
  obtain ⟨d, more, rfl⟩ := List.exists_cons_of_ne_nil ha.ne_nil
  obtain ⟨s, symbol', rfl⟩ := List.exists_cons_of_ne_nil h.ne_nil
  exact h.beginsNone_of_short (Bool.or_eq_false_iff.mp h.digitless).2 (Nat.lt_succ_self _) ha.first

end Plain

/-- May the character stand between an amount and the second one of its pair? -/
def leadsIn (c : Char) : Bool := isBlank c || c == '('

theorem isNumeral_of_leadsIn (h : leadsIn c = true) : isNumeral c = false := by
  rcases Bool.or_eq_true_iff.mp h with hblank | hopen
  · exact isNumeral_of_isBlank hblank
  · rw [eq_of_beq hopen]
    decide

theorem any_isNumeral_of_leadsIn (h : rest.head?.any leadsIn = true) :
    rest.head?.any isNumeral = false := by
  cases rest with
  | nil => rfl
  | cons c more => exact isNumeral_of_leadsIn h

/-- An amount with the symbol begins the text, and behind it comes what may lead to a second one. -/
def Opens (symbol cs : List Char) : Prop :=
  ∃ amount rest, IsAmount amount ∧ rest.head?.any leadsIn = true ∧ cs = symbol ++ amount ++ rest

end

section
variable {symbol cs start middle rest first blanks second gap out : List Char} {c : Char}

theorem Opens.begins (h : Opens symbol cs) : BeginsAmount symbol cs := by
  obtain ⟨amount, rest, hamount, -, rfl⟩ := h
  exact beginsAmount_of_isAmount hamount rest

theorem any_leadsIn_blanks (hblanks : blanks.all isBlank = true) (rest : List Char) :
    (blanks ++ '(' :: rest).head?.any leadsIn = true := by
  cases blanks with
  | nil => exact show leadsIn '(' = true by decide
  | cons b more =>
    exact Bool.or_eq_true_iff.mpr (.inl (Bool.and_eq_true_iff.mp hblanks).1)

theorem IsPair.opens (h : IsPair symbol first blanks second) (rest : List Char) :
    Opens symbol (symbol ++ first ++ (blanks ++ bracketed symbol second) ++ rest) := by
  refine ⟨first, blanks ++ bracketed symbol second ++ rest, h.first, ?_, List.append_assoc ..⟩
  rw [List.append_assoc]
  exact any_leadsIn_blanks h.blanks _

/-- An amount before a closing bracket is not the first one of a pair. -/
theorem not_opens_close (symbol : List Char) (h : IsAmount second) (rest : List Char) :
    ¬Opens symbol (symbol ++ second ++ ')' :: rest) := by
  rintro ⟨amount, more, hamount, hmore, hcs⟩
  have hclose : (')' :: rest).head?.any isNumeral = false := show isNumeral ')' = false by decide
  rw [List.append_assoc, List.append_assoc] at hcs
  obtain ⟨-, rfl⟩ := amount_unique h hamount hclose (any_isNumeral_of_leadsIn hmore)
    (List.append_cancel_left hcs)
  exact absurd hmore (show ¬leadsIn ')' = true by decide)

namespace Plain

/-- Inside a text that begins with the symbol no amount begins, if none does behind its first
character. -/
theorem not_begins_inside (h : Plain symbol) (hnone : BeginsNone symbol (symbol.tail ++ cs) rest)
    (hsplit : symbol ++ cs = start ++ middle) (hstart : start ≠ []) (hmiddle : middle ≠ []) :
    ¬BeginsAmount symbol (middle ++ rest) := by
  obtain ⟨s, symbol', rfl⟩ := List.exists_cons_of_ne_nil h.ne_nil
  obtain ⟨c, start', rfl⟩ := List.exists_cons_of_ne_nil hstart
  have htail : symbol' ++ cs = start' ++ middle := (List.cons_eq_cons.mp hsplit).2
  rw [List.tail_cons, htail] at hnone
  exact hnone.not_begins hmiddle

/-- No amount inside a pair opens another one; between its amounts there is a gap without digits. -/
theorem not_opens_inside (h : Plain symbol) (hfirst : IsAmount first) (hsecond : IsAmount second)
    (hgap : gap.any isDigit = false)
    (hsplit : symbol ++ (first ++ gap) ++ (symbol ++ (second ++ [')'])) = start ++ middle)
    (hstart : start ≠ []) (hmiddle : middle ≠ []) (rest : List Char) :
    ¬Opens symbol (middle ++ rest) := by
  have hclose : ¬Opens symbol (symbol ++ (second ++ [')']) ++ rest) := by
    have hlast := not_opens_close symbol hsecond rest
    rwa [← List.append_assoc, List.append_assoc (symbol ++ second), List.singleton_append]
  rcases List.append_eq_append_iff.mp hsplit with ⟨as, rfl, hright⟩ | ⟨bs, hleft, rfl⟩
  · by_cases has : as = []
    · rw [has, List.nil_append] at hright
      rwa [← hright]
    · have hnone : BeginsNone symbol (symbol.tail ++ (second ++ [')'])) rest := by
        rw [← List.append_assoc]
        exact beginsNone_append.mpr ⟨h.beginsNone_tail hsecond _, h.beginsNone_close rest⟩
      exact mt Opens.begins (h.not_begins_inside hnone hright has hmiddle)
  · by_cases hbs : bs = []
    · rwa [hbs, List.nil_append]
    · obtain ⟨d, more, rfl⟩ := List.exists_cons_of_ne_nil hsecond.ne_nil
      have hnone : BeginsNone symbol (symbol.tail ++ (first ++ gap))
          (symbol ++ (d :: more ++ [')']) ++ rest) := by
        rw [← List.append_assoc, List.append_assoc symbol]
        exact beginsNone_append.mpr
          ⟨h.beginsNone_tail hfirst _, h.beginsNone_gap hgap hsecond.first⟩
      rw [List.append_assoc]
      exact mt Opens.begins (h.not_begins_inside hnone hleft hstart hbs)

end Plain

theorem any_isDigit_blanks (hblanks : blanks.all isBlank = true) :
    (blanks ++ ['(']).any isDigit = false := by
  have hnone : blanks.any isDigit = false := List.any_eq_false.mpr fun b hb => by
    simp [isDigit_of_isBlank (List.all_eq_true.mp hblanks b hb)]
  rw [List.any_append, hnone]
  decide

theorem IsPair.not_opens_inside (h : Plain symbol) (hpair : IsPair symbol first blanks second)
    (hsplit : symbol ++ first ++ (blanks ++ bracketed symbol second) = start ++ middle)
    (hstart : start ≠ []) (hmiddle : middle ≠ []) (rest : List Char) :
    ¬Opens symbol (middle ++ rest) := by
  have hpiece : symbol ++ (first ++ (blanks ++ ['('])) ++ (symbol ++ (second ++ [')'])) =
      start ++ middle := by
    rw [← hsplit]
    simp [bracketed]
  exact h.not_opens_inside hpair.first hpair.second (any_isDigit_blanks hpair.blanks) hpiece hstart
    hmiddle rest

/-- In what stands in the place of a pair no other one is opened. -/
theorem PairEnd.not_opens_inside (h : Plain symbol) (hpair : IsPair symbol first blanks second)
    {ending : List Char} (hending : PairEnd symbol first second ending)
    (hsplit : symbol ++ first ++ ending = start ++ middle) (hstart : start ≠ [])
    (hmiddle : middle ≠ []) (rest : List Char) : ¬Opens symbol (middle ++ rest) := by
  cases hending with
  | profit _ =>
    have hpiece : symbol ++ (first ++ " (Profit: ".toList) ++ (symbol ++ (second ++ [')'])) =
        start ++ middle := by
      rw [← hsplit]
      simp only [List.append_assoc]
    exact h.not_opens_inside hpair.first hpair.second (by decide) hpiece hstart hmiddle rest
  | dropped _ =>
    rw [List.append_nil] at hsplit
    exact mt Opens.begins
      (h.not_begins_inside (h.beginsNone_tail hpair.first _) hsplit hstart hmiddle)

theorem clarified_append_of_opens (h : Plain symbol) (hopens : Opens symbol cs)
    (start : List Char) : ∃ out, clarified symbol (start ++ cs) = out ++ clarified symbol cs := by
  induction hn : start.length using Nat.strongRecOn generalizing start with
  | _ n ih =>
    cases start with
    | nil => exact ⟨[], rfl⟩
    | cons c start =>
      rw [List.length_cons] at hn
      cases hpair : takePair? symbol (c :: (start ++ cs)) with
      | none =>
        obtain ⟨out, hout⟩ := ih _ (by omega) start rfl
        exact ⟨c :: out, by rw [List.cons_append, clarified_of_none hpair, hout, List.cons_append]⟩
      | some found =>
        obtain ⟨first, second, rest⟩ := found
        obtain ⟨blanks, hcs, hispair⟩ := takePair?_eq_some hpair
        obtain ⟨ending, -, hout⟩ := clarified_of_some hpair
        have hbetween : ∃ between, rest = between ++ cs ∧ between.length ≤ start.length := by
          rw [← List.cons_append] at hcs
          rcases List.append_eq_append_iff.mp hcs with ⟨as, hpiece, htail⟩ | ⟨bs, hstart, hrest⟩
          · by_cases has : as = []
            · exact ⟨[], by rw [htail, has]; rfl, Nat.zero_le _⟩
            · have hnot := hispair.not_opens_inside h hpiece (List.cons_ne_nil _ _) has rest
              rw [← htail] at hnot
              exact absurd hopens hnot
          · have hlength := congrArg List.length hstart
            have hpos := List.length_pos_iff.mpr hispair.first.ne_nil
            simp only [List.length_append, List.length_cons] at hlength
            exact ⟨bs, hrest, by omega⟩
        obtain ⟨between, rfl, hlength⟩ := hbetween
        obtain ⟨out, hout'⟩ := ih _ (by omega) between rfl
        exact ⟨symbol ++ first ++ ending ++ out, by
          rw [List.cons_append, hout, hout', List.append_assoc _ out]⟩

/-- Where a pass leaves a pair opened, a place of the text stood before. -/
theorem exists_of_clarified_eq_append_opens (h : Plain symbol) (hopens : Opens symbol rest)
    (hcs : clarified symbol cs = out ++ rest) :
    ∃ start rest', cs = start ++ rest' ∧ clarified symbol rest' = rest := by
  induction hn : cs.length using Nat.strongRecOn generalizing cs out with
  | _ n ih =>
    cases out with
    | nil => exact ⟨[], cs, rfl, hcs⟩
    | cons c out =>
      cases cs with
      | nil => cases hcs
      | cons d cs =>
        rw [List.length_cons] at hn
        cases hpair : takePair? symbol (d :: cs) with
        | none =>
          rw [clarified_of_none hpair, List.cons_append] at hcs
          obtain ⟨start, rest', rfl, hrest'⟩ := ih _ (by omega) (List.tail_eq_of_cons_eq hcs) rfl
          exact ⟨d :: start, rest', rfl, hrest'⟩
        | some found =>
          obtain ⟨first, second, more⟩ := found
          obtain ⟨blanks, hpiece, hispair⟩ := takePair?_eq_some hpair
          obtain ⟨ending, hending, hout⟩ := clarified_of_some hpair
          have hlength : more.length < n := by
            have hlength := congrArg List.length hpiece
            have hpos := List.length_pos_iff.mpr hispair.first.ne_nil
            simp only [List.length_append, List.length_cons] at hlength
            omega
          rw [hout] at hcs
          rcases List.append_eq_append_iff.mp hcs with ⟨as, -, hmore⟩ | ⟨bs, hsplit, hrest⟩
          · obtain ⟨start, rest', rfl, hrest'⟩ := ih _ hlength hmore rfl
            exact ⟨_ ++ start, rest', by rw [hpiece, List.append_assoc _ start], hrest'⟩
          · by_cases hbs : bs = []
            · exact ⟨_, more, hpiece, by rw [hrest, hbs]; rfl⟩
            · have hnot := hending.not_opens_inside h hispair hsplit (List.cons_ne_nil _ _) hbs
                (clarified symbol more)
              rw [← hrest] at hnot
              exact absurd hopens hnot

end

/-- An amount that a pass leaves with its symbol, and what it stands as before: alone, or with its
first digits before a second amount that is dropped and more of it behind. -/
inductive Figure (symbol : List Char) : List Char → List Char → Prop
  | alone {amount : List Char} (h : IsAmount amount) : Figure symbol amount (symbol ++ amount)
  | dropped {first blanks second more : List Char} (hpair : IsPair symbol first blanks second)
      (hsmall : ¬KeepsSecond first second) (h : IsAmount (first ++ more)) :
    Figure symbol (first ++ more) (symbol ++ first ++ (blanks ++ bracketed symbol second) ++ more)

namespace Figure

variable {symbol amount text rest cs : List Char}

theorem isAmount (h : Figure symbol amount text) : IsAmount amount := by
  cases h with
  | alone h => exact h
  | dropped _ _ h => exact h

theorem begins (h : Figure symbol amount text) (rest : List Char) :
    BeginsAmount symbol (text ++ rest) := by
  cases h with
  | alone h => exact beginsAmount_of_isAmount h rest
  | dropped hpair _ _ =>
    rw [List.append_assoc]
    exact (hpair.opens _).begins

theorem opens (h : Figure symbol amount text) (hrest : rest.head?.any leadsIn = true) :
    Opens symbol (text ++ rest) := by
  cases h with
  | alone h => exact ⟨_, rest, h, hrest, rfl⟩
  | dropped hpair _ _ =>
    rw [List.append_assoc]
    exact hpair.opens _

/-- Before a second amount that is dropped, the first one opens a pair. -/
theorem opens_of_ne (h : Figure symbol amount text) (hne : text ≠ symbol ++ amount)
    (rest : List Char) : Opens symbol (text ++ rest) := by
  cases h with
  | alone _ => exact absurd rfl hne
  | dropped hpair _ _ =>
    rw [List.append_assoc]
    exact hpair.opens _

/-- A pass leaves the amount, unless it stands alone and has a second one behind it. -/
theorem clarified_append (h : Figure symbol amount text) (hplain : Plain symbol)
    (hnone : text = symbol ++ amount → takePair? symbol (text ++ rest) = none) :
    clarified symbol (text ++ rest) = symbol ++ amount ++ clarified symbol rest := by
  cases h with
  | alone hamount =>
    have htail := hplain.beginsNone_tail hamount rest
    have hnone := hnone rfl
    obtain ⟨s, symbol', rfl⟩ := List.exists_cons_of_ne_nil hplain.ne_nil
    rw [List.cons_append, List.cons_append] at hnone ⊢
    have hafter := Reply.clarified_append htail
    rw [List.tail_cons] at hafter
    rw [clarified_of_none hnone, hafter]
    rfl
  | @dropped first blanks second more hpair hsmall hamount =>
    obtain ⟨ending, hending, hout⟩ := clarified_of_some (takePair?_append hpair (more ++ rest))
    have hmore := beginsNone_append.mp (hplain.beginsNone_amount hamount rest)
    cases hending with
    | profit hlarge => exact absurd hlarge hsmall
    | dropped _ =>
      rw [List.append_assoc, hout, Reply.clarified_append hmore.2]
      simp only [List.append_assoc, List.append_nil]

/-- What a pass leaves as an amount with its symbol stood there as one, unless it is the first
amount of a profit. -/
theorem exists_of_clarified (hplain : Plain symbol) (hamount : IsAmount amount)
    (hrest : rest.head?.any isNumeral = false)
    (hprofit : ∀ d more, isDigit d = true → rest ≠ " (Profit: ".toList ++ symbol ++ d :: more)
    (hcs : clarified symbol cs = symbol ++ amount ++ rest) :
    ∃ text rest', Figure symbol amount text ∧ cs = text ++ rest' ∧
      clarified symbol rest' = rest ∧ (text = symbol ++ amount → takePair? symbol cs = none) := by
  cases hpair : takePair? symbol cs with
  | none =>
    have htail := hplain.beginsNone_tail hamount rest
    obtain ⟨s, symbol', rfl⟩ := List.exists_cons_of_ne_nil hplain.ne_nil
    cases cs with
    | nil => cases hcs
    | cons c cs =>
      rw [clarified_of_none hpair, List.cons_append, List.cons_append, List.cons_eq_cons] at hcs
      obtain ⟨rest', rfl, hrest'⟩ := exists_of_clarified_eq_append htail hcs.2
      exact ⟨_, rest', .alone hamount, by rw [hcs.1]; rfl, hrest', fun _ => rfl⟩
  | some found =>
    obtain ⟨first, second, more⟩ := found
    obtain ⟨blanks, hpiece, hispair⟩ := takePair?_eq_some hpair
    obtain ⟨ending, hending, hout⟩ := clarified_of_some hpair
    rw [hout, List.append_assoc, List.append_assoc, List.append_assoc] at hcs
    have hcs := List.append_cancel_left hcs
    cases hending with
    | profit _ =>
      obtain ⟨d, second', rfl⟩ := List.exists_cons_of_ne_nil hispair.second.ne_nil
      have hblank : isNumeral ' ' = false := by decide
      obtain ⟨-, hafter⟩ := amount_unique hispair.first hamount (by exact hblank) hrest hcs
      refine absurd hafter.symm ?_
      simpa only [List.append_assoc, List.cons_append] using hprofit d _ hispair.second.first
    | dropped hsmall =>
      rw [List.nil_append] at hcs
      obtain ⟨as, rfl, hmore⟩ := exists_of_numerals_append hispair.first.all hrest hcs
      have hnone := (beginsNone_append.mp (hplain.beginsNone_amount hamount rest)).2
      obtain ⟨rest', rfl, hrest'⟩ := exists_of_clarified_eq_append hnone hmore
      refine ⟨_, rest', .dropped hispair hsmall hamount, by rw [hpiece, List.append_assoc _ as],
        hrest', fun hself => ?_⟩
      have hlength := congrArg List.length hself
      simp [bracketed] at hlength
      omega

end Figure

/-- A second amount, dropped behind one or in one of two amounts, stood between what would otherwise
be a pair. -/
def Reopens (symbol cs : List Char) : Prop :=
  ∃ start first text blanks second text' rest, Figure symbol first text ∧
    Figure symbol second text' ∧ blanks.all isBlank = true ∧
    (text ≠ symbol ++ first ∨ text' ≠ symbol ++ second) ∧
    cs = start ++ (text ++ (blanks ++ '(' :: (text' ++ ')' :: rest)))

section
variable {symbol cs rest first blanks second : List Char}

theorem opens_of_some {found : List Char × List Char × List Char}
    (h : takePair? symbol cs = some found) : Opens symbol cs := by
  obtain ⟨first, second, rest⟩ := found
  obtain ⟨blanks, rfl, hpair⟩ := takePair?_eq_some h
  exact hpair.opens rest

/-- An amount that is the first one of a pair is not the second one of another. -/
theorem takePair?_eq_none_of_opens (hfirst : IsAmount first) (hblanks : blanks.all isBlank = true)
    (h : Opens symbol cs) : takePair? symbol (symbol ++ first ++ (blanks ++ '(' :: cs)) = none := by
  rw [Option.eq_none_iff_forall_ne_some]
  rintro ⟨first', second', rest'⟩ hsome
  obtain ⟨blanks', hcs, hpair⟩ := takePair?_eq_some hsome
  have hsplit : symbol ++ first' ++ (blanks' ++ bracketed symbol second') ++ rest' =
      symbol ++ (first' ++ (blanks' ++ '(' :: (symbol ++ second' ++ ')' :: rest'))) := by
    simp [bracketed]
  rw [hsplit, List.append_assoc] at hcs
  obtain ⟨-, hgap⟩ := amount_unique hfirst hpair.first
    (any_isNumeral_of_leadsIn (any_leadsIn_blanks hblanks _))
    (any_isNumeral_of_leadsIn (any_leadsIn_blanks hpair.blanks _)) (List.append_cancel_left hcs)
  have hopen : isBlank '(' = false := by decide
  have hbehind := congrArg (List.dropWhile isBlank) hgap
  rw [dropWhile_of_run hblanks (by exact hopen),
    dropWhile_of_run hpair.blanks (by exact hopen)] at hbehind
  rw [List.tail_eq_of_cons_eq hbehind] at h
  exact not_opens_close symbol hpair.second rest' h

/-- What leads from an amount to the second one of its pair is not the start of a profit. -/
theorem ne_profit (h : Plain symbol) (hblanks : blanks.all isBlank = true) {d e : Char}
    {more more' : List Char} (hd : isDigit d = true) (he : isDigit e = true) :
    blanks ++ '(' :: (symbol ++ d :: more) ≠ " (Profit: ".toList ++ symbol ++ e :: more' := by
  intro heq
  have hsplit : blanks ++ '(' :: (symbol ++ d :: more) =
      (blanks ++ ['('] ++ symbol) ++ d :: more := by
    simp
  have hleft : (blanks ++ ['('] ++ symbol).any isDigit = false := by
    rw [List.any_append, any_isDigit_blanks hblanks, h.digitless]
    rfl
  have hright : (" (Profit: ".toList ++ symbol).any isDigit = false := by
    rw [List.any_append, h.digitless]
    decide
  rw [hsplit] at heq
  have hgap := List.append_cancel_right (digitless_unique hleft hright hd he heq)
  have hlast := congrArg List.getLast? hgap
  rw [List.getLast?_concat] at hlast
  exact absurd hlast (by decide)

/-- What a pass leaves as an amount before a closing bracket stood there as one. -/
theorem exists_of_clarified_close (h : Plain symbol) (hsecond : IsAmount second)
    (hcs : clarified symbol cs = symbol ++ second ++ ')' :: rest) :
    ∃ text rest', Figure symbol second text ∧ cs = text ++ ')' :: rest' := by
  have hclose : isNumeral ')' = false := by decide
  have hprofit : ∀ d more, isDigit d = true →
      ')' :: rest ≠ " (Profit: ".toList ++ symbol ++ d :: more := by
    intro d more _ heq
    exact absurd (congrArg List.head? heq) (show some ')' ≠ some ' ' by decide)
  obtain ⟨text, _, hfigure, rfl, hend, -⟩ :=
    Figure.exists_of_clarified h hsecond (by exact hclose) hprofit hcs
  obtain ⟨rest', rfl, -⟩ := exists_of_clarified_eq_append (h.beginsNone_close rest) hend
  exact ⟨text, rest', hfigure, rfl⟩

/-- What a pass leaves as the first amount of a pair stood there as one, before the same bracket. -/
theorem exists_of_clarified_open (h : Plain symbol) (hpair : IsPair symbol first blanks second)
    (hcs : clarified symbol cs =
      symbol ++ first ++ (blanks ++ '(' :: (symbol ++ second ++ ')' :: rest))) :
    ∃ text rest', Figure symbol first text ∧ cs = text ++ (blanks ++ '(' :: rest') ∧
      clarified symbol rest' = symbol ++ second ++ ')' :: rest ∧
      (text = symbol ++ first → takePair? symbol cs = none) := by
  obtain ⟨d, second', hsecond⟩ := List.exists_cons_of_ne_nil hpair.second.ne_nil
  have hd : isDigit d = true := by
    have hhead := hpair.second.first
    rwa [hsecond] at hhead
  have hprofit : ∀ e more, isDigit e = true →
      blanks ++ '(' :: (symbol ++ second ++ ')' :: rest) ≠
        " (Profit: ".toList ++ symbol ++ e :: more := by
    intro e more he
    rw [hsecond, List.append_assoc]
    exact ne_profit h hpair.blanks hd he
  obtain ⟨text, _, hfigure, rfl, hbehind, hnone⟩ := Figure.exists_of_clarified h hpair.first
    (any_isNumeral_of_leadsIn (any_leadsIn_blanks hpair.blanks _)) hprofit hcs
  have hgap : BeginsNone symbol (blanks ++ ['(']) (symbol ++ second ++ ')' :: rest) := by
    rw [hsecond, List.append_assoc]
    exact h.beginsNone_gap (any_isDigit_blanks hpair.blanks) hd
  rw [List.append_cons] at hbehind
  obtain ⟨rest', rfl, hinside⟩ := exists_of_clarified_eq_append hgap hbehind
  exact ⟨text, rest', hfigure, by rw [← List.append_cons], hinside, hnone⟩

/-- A pair that is left was brought together. -/
theorem reopens_of_hasPair (h : Plain symbol) (hpair : HasPair symbol (clarified symbol cs)) :
    Reopens symbol cs := by
  obtain ⟨start, first, blanks, second, rest, hpair, hout⟩ := hpair
  obtain ⟨start', here, rfl, hhere⟩ :=
    exists_of_clarified_eq_append_opens h (hpair.opens rest) hout
  have hfirst : clarified symbol here =
      symbol ++ first ++ (blanks ++ '(' :: (symbol ++ second ++ ')' :: rest)) := by
    rw [hhere]
    simp [bracketed]
  obtain ⟨text, _, hfigure, rfl, hinside, hnone⟩ := exists_of_clarified_open h hpair hfirst
  obtain ⟨text', rest', hfigure', rfl⟩ := exists_of_clarified_close h hpair.second hinside
  refine ⟨start', first, text, blanks, second, text', rest', hfigure, hfigure', hpair.blanks, ?_,
    rfl⟩
  by_contra hboth
  obtain ⟨htext, htext'⟩ := not_or.mp hboth
  rw [not_not] at htext htext'
  have hpiece : text ++ (blanks ++ '(' :: (text' ++ ')' :: rest')) =
      symbol ++ first ++ (blanks ++ bracketed symbol second) ++ rest' := by
    rw [htext, htext']
    simp [bracketed]
  have hsome := takePair?_append hpair rest'
  rw [← hpiece, hnone htext] at hsome
  cases hsome

theorem hasPair_of_reopens (h : Plain symbol) (hreopens : Reopens symbol cs) :
    HasPair symbol (clarified symbol cs) := by
  obtain ⟨start, first, text, blanks, second, text', rest, hfigure, hfigure', hblanks, hone, rfl⟩ :=
    hreopens
  obtain ⟨out, hout⟩ := clarified_append_of_opens h
    (hfigure.opens (any_leadsIn_blanks hblanks (text' ++ ')' :: rest))) start
  have hfirst : clarified symbol (text ++ (blanks ++ '(' :: (text' ++ ')' :: rest))) =
      symbol ++ first ++ clarified symbol (blanks ++ '(' :: (text' ++ ')' :: rest)) := by
    apply hfigure.clarified_append h
    intro hself
    rw [hself]
    have hdrops := hone.resolve_left (not_not_intro hself)
    exact takePair?_eq_none_of_opens hfigure.isAmount hblanks (hfigure'.opens_of_ne hdrops _)
  have hgap : clarified symbol (blanks ++ '(' :: (text' ++ ')' :: rest)) =
      blanks ++ '(' :: clarified symbol (text' ++ ')' :: rest) := by
    obtain ⟨d, more, hd, hbegins⟩ := hfigure'.begins (')' :: rest)
    have hnone : BeginsNone symbol (blanks ++ ['(']) (text' ++ ')' :: rest) := by
      rw [hbegins]
      exact h.beginsNone_gap (any_isDigit_blanks hblanks) hd
    rw [List.append_cons, clarified_append hnone]
    exact (List.append_cons ..).symm
  have hsecond : clarified symbol (text' ++ ')' :: rest) =
      symbol ++ second ++ ')' :: clarified symbol rest := by
    rw [hfigure'.clarified_append h]
    · exact congrArg _ (clarified_append (h.beginsNone_close rest))
    · intro hself
      rw [hself, Option.eq_none_iff_forall_ne_some]
      exact fun _ hsome => not_opens_close symbol hfigure'.isAmount rest (opens_of_some hsome)
  refine ⟨out, first, blanks, second, clarified symbol rest,
    ⟨hfigure.isAmount, hfigure'.isAmount, hblanks⟩, ?_⟩
  rw [hout, hfirst, hgap, hsecond]
  simp [bracketed]

end

/-- A second pass changes a reply exactly if a pair is left in it; and for a plain symbol one is
left exactly if an amount was dropped from between two others. -/
theorem clarifyPairs_clarifyPairs_iff (text symbol : String) :
    (clarifyPairs (clarifyPairs text symbol) symbol = clarifyPairs text symbol ↔
      ¬HasPair symbol.toList (clarifyPairs text symbol).toList) ∧
    (Plain symbol.toList → (HasPair symbol.toList (clarifyPairs text symbol).toList ↔
      Reopens symbol.toList text.toList)) := by
  constructor
  · rw [← clarified_eq_self_iff, ← String.toList_inj, toList_clarifyPairs]
  · intro h
    rw [toList_clarifyPairs]
    exact ⟨reopens_of_hasPair h, hasPair_of_reopens h⟩

theorem plain_rupee : Plain "₹".toList := by constructor <;> decide

theorem isAmount_digits {d : Char} {ds : List Char} (h : (d :: ds).all isDigit = true) :
    IsAmount (d :: ds) := by
  obtain ⟨hd, hds⟩ := Bool.and_eq_true_iff.mp h
  exact .whole hd (List.all_eq_true.mpr fun c hc => by simp [inWhole, List.all_eq_true.mp hds c hc])

/-- An amount with two others behind it. -/
def chainedAmounts : String := "Revenue ₹100 (₹50) (₹40)"

/-- The amount in the middle is dropped, and the last one comes next to the first. -/
theorem clarifyPairs_clarifyPairs_iff_chained :
    Plain "₹".toList ∧ Reopens "₹".toList chainedAmounts.toList ∧
      HasPair "₹".toList (clarifyPairs chainedAmounts "₹").toList := by
  have hfirst : IsAmount "100".toList := isAmount_digits (by decide)
  have hsecond : IsAmount "50".toList := isAmount_digits (by decide)
  have hthird : IsAmount "40".toList := isAmount_digits (by decide)
  have hsmall : ¬KeepsSecond "100".toList "50".toList := by
    unfold KeepsSecond
    decide +kernel
  have hpair : IsPair "₹".toList "100".toList [' '] "50".toList := ⟨hfirst, hsecond, rfl⟩
  have hfigure : Figure "₹".toList "100".toList "₹100 (₹50)".toList :=
    Figure.dropped hpair hsmall (show IsAmount ("100".toList ++ []) from hfirst)
  have hreopens : Reopens "₹".toList chainedAmounts.toList :=
    ⟨"Revenue ".toList, "100".toList, "₹100 (₹50)".toList, [' '], "40".toList, "₹40".toList, [],
      hfigure, .alone hthird, rfl, .inl (by decide), rfl⟩
  exact ⟨plain_rupee, hreopens, ((clarifyPairs_clarifyPairs_iff _ _).2 plain_rupee).mpr hreopens⟩

/-- A pair is left, and a second pass would drop its second amount. -/
theorem chainedAmounts_left : clarifyPairs chainedAmounts "₹" = "Revenue ₹100 (₹40)" ∧
    HasPair "₹".toList "Revenue ₹100 (₹40)".toList ∧
    clarifyPairs "Revenue ₹100 (₹40)" "₹" = "Revenue ₹100" := by
  have hpair : IsPair "₹".toList "100".toList [' '] "40".toList :=
    ⟨isAmount_digits (by decide), isAmount_digits (by decide), rfl⟩
  exact ⟨by decide +kernel, ⟨"Revenue ".toList, _, _, _, [], hpair, rfl⟩, by decide +kernel⟩

end SalesDesk.Reply
