import SalesDesk.Proofs.Reply.Steps
import SalesDesk.Proofs.Text.Words
import SalesDesk.Reply.Pairs

/-! Where a pair of amounts stands in a text, and what is put in its place. -/
namespace SalesDesk.Reply

open Text

def inWhole (c : Char) : Bool := isDigit c || c == ','

/-- A digit, more digits and commas, and perhaps a point with digits after it. -/
inductive IsAmount : List Char → Prop
  | whole {d : Char} {ds : List Char} (hd : isDigit d = true) (hds : ds.all inWhole = true) :
    IsAmount (d :: ds)
  | fraction {d e : Char} {ds es : List Char} (hd : isDigit d = true) (hds : ds.all inWhole = true)
      (he : isDigit e = true) (hes : es.all isDigit = true) : IsAmount (d :: ds ++ '.' :: e :: es)

theorem isNumeral_of_inWhole {c : Char} (h : inWhole c = true) : isNumeral c = true :=
  Bool.or_eq_true_iff.mpr (.inl h)

theorem isNumeral_of_isDigit {c : Char} (h : isDigit c = true) : isNumeral c = true :=
  isNumeral_of_inWhole (Bool.or_eq_true_iff.mpr (.inl h))

namespace IsAmount

variable {amount : List Char}

theorem first (h : IsAmount amount) : amount.head?.any isDigit = true := by
  cases h with
  | whole hd _ => exact hd
  | fraction hd _ _ _ => exact hd

theorem all (h : IsAmount amount) : amount.all isNumeral = true := by
  have hwhole : ∀ {ds : List Char}, ds.all inWhole = true → ∀ c ∈ ds, isNumeral c = true :=
    fun hds c hc => isNumeral_of_inWhole (List.all_eq_true.mp hds c hc)
  apply List.all_eq_true.mpr
  cases h with
  | whole hd hds => exact List.forall_mem_cons.mpr ⟨isNumeral_of_isDigit hd, hwhole hds⟩
  | fraction hd hds he hes =>
    have hdigits := fun c hc => isNumeral_of_isDigit (List.all_eq_true.mp hes c hc)
    rw [List.cons_append, List.forall_mem_cons, List.forall_mem_append, List.forall_mem_cons,
      List.forall_mem_cons]
    exact ⟨isNumeral_of_isDigit hd, hwhole hds, by decide, isNumeral_of_isDigit he, hdigits⟩

theorem ne_nil (h : IsAmount amount) : amount ≠ [] := by
  rintro rfl
  cases h.first

end IsAmount

theorem afterText?_eq_some {word cs rest : List Char} (h : afterText? word cs = some rest) :
    cs = word ++ rest := by
  induction word generalizing cs with
  | nil => exact Option.some.inj h
  | cons w word ih =>
    cases cs with
    | nil => cases h
    | cons c cs =>
      rw [afterText?] at h
      split at h
      · rename_i hc
        rw [eq_of_beq hc, ih h, List.cons_append]
      · cases h

theorem takeAmount?_eq_some {cs amount rest : List Char}
    (h : takeAmount? cs = some (amount, rest)) :
    cs = amount ++ rest ∧ IsAmount amount := by
  unfold takeAmount? at h
  split at h
  · cases h
  · rename_i hhead
    have hhead : cs.head?.any isDigit = true := by simpa using hhead
    obtain ⟨d, more, rfl⟩ : ∃ d more, cs = d :: more := by
      cases cs with
      | nil => cases hhead
      | cons d more => exact ⟨d, more, rfl⟩
    have hd : isDigit d = true := hhead
    have hfirst : inWhole d = true := by simp [inWhole, hd]
    have hds : (more.takeWhile inWhole).all inWhole = true := List.all_takeWhile
    have hsplit := List.takeWhile_append_dropWhile (p := inWhole) (l := more)
    have hlocal : (fun c : Char => isDigit c || c == ',') = inWhole := rfl
    dsimp only at h
    rw [hlocal, List.takeWhile_cons_of_pos hfirst, List.dropWhile_cons_of_pos hfirst] at h
    split at h
    · rename_i after hpoint
      split at h
      · cases h
        exact ⟨by rw [List.cons_append, hsplit], .whole hd hds⟩
      · rename_i hfraction
        cases h
        have hes := List.takeWhile_append_dropWhile (p := isDigit) (l := after)
        have hdigits : (after.takeWhile isDigit).all isDigit = true := List.all_takeWhile
        cases htake : after.takeWhile isDigit with
        | nil => simp [htake] at hfraction
        | cons e es =>
          rw [htake] at hes hdigits
          obtain ⟨he, hes'⟩ := Bool.and_eq_true_iff.mp hdigits
          refine ⟨?_, .fraction hd hds he hes'⟩
          rw [List.append_assoc, List.cons_append, List.cons_append, hes, ← hpoint, hsplit]
    · cases h
      exact ⟨by rw [List.cons_append, hsplit], .whole hd hds⟩

/-- An amount is read whole if the text does not go on with it. -/
theorem takeAmount?_append {amount rest : List Char} (h : IsAmount amount)
    (hrest : rest.head?.any isNumeral = false) :
    takeAmount? (amount ++ rest) = some (amount, rest) := by
  have hlocal : (fun c : Char => isDigit c || c == ',') = inWhole := rfl
  have hhead : (amount ++ rest).head?.any isDigit = true := by
    rw [List.head?_append_of_ne_nil _ h.ne_nil, h.first]
  have hstops : ∀ {belongs : Char → Bool}, (∀ c, belongs c = true → isNumeral c = true) →
      rest.head?.any belongs = false := by
    intro belongs hsub
    cases rest with
    | nil => rfl
    | cons c more =>
      rw [← Bool.not_eq_true] at hrest ⊢
      exact mt (hsub c) hrest
  have hwhole : rest.head?.any inWhole = false := hstops fun _ => isNumeral_of_inWhole
  have hdigit : rest.head?.any isDigit = false := hstops fun _ => isNumeral_of_isDigit
  rw [takeAmount?, hhead, hlocal, Bool.not_true, if_neg Bool.false_ne_true]
  dsimp only
  cases h with
  | @whole d ds hd hds =>
    have hrun : (d :: ds).all inWhole = true := by simp [inWhole, hd, ← hds]
    rw [takeWhile_of_run hrun hwhole, dropWhile_of_run hrun hwhole]
    split
    · exact absurd hrest (show ¬isNumeral '.' = false by decide)
    · rfl
  | @fraction d e ds es hd hds he hes =>
    have hrun : (d :: ds).all inWhole = true := by simp [inWhole, hd, ← hds]
    have hrun' : (e :: es).all isDigit = true := by simp [he, ← hes]
    have hpoint : ('.' :: (e :: es ++ rest)).head?.any inWhole = false :=
      show inWhole '.' = false by decide
    have hsplit : (d :: ds ++ '.' :: e :: es) ++ rest = (d :: ds) ++ '.' :: (e :: es ++ rest) := by
      simp
    rw [hsplit, takeWhile_of_run hrun hpoint, dropWhile_of_run hrun hpoint]
    simp only [takeWhile_of_run hrun' hdigit, dropWhile_of_run hrun' hdigit, List.isEmpty_cons,
      Bool.false_eq_true, if_false]

structure IsPair (symbol first blanks second : List Char) : Prop where
  first : IsAmount first
  second : IsAmount second
  blanks : blanks.all isBlank = true

def bracketed (symbol second : List Char) : List Char := '(' :: (symbol ++ (second ++ [')']))

theorem takePair?_eq_some {symbol cs first second rest : List Char}
    (h : takePair? symbol cs = some (first, second, rest)) :
    ∃ blanks, cs = symbol ++ first ++ (blanks ++ bracketed symbol second) ++ rest ∧
      IsPair symbol first blanks second := by
  obtain ⟨afterSymbol, hsymbol, h⟩ := Option.bind_eq_some_iff.mp h
  obtain ⟨⟨first', afterFirst⟩, hfirst, h⟩ := Option.bind_eq_some_iff.mp h
  obtain ⟨afterOpen, hopen, h⟩ := Option.bind_eq_some_iff.mp h
  obtain ⟨afterSymbol', hsymbol', h⟩ := Option.bind_eq_some_iff.mp h
  obtain ⟨⟨second', afterSecond⟩, hsecond, h⟩ := Option.bind_eq_some_iff.mp h
  obtain ⟨afterClose, hclose, h⟩ := Option.bind_eq_some_iff.mp h
  cases h
  obtain ⟨rfl, hamount⟩ := takeAmount?_eq_some hfirst
  obtain ⟨rfl, hamount'⟩ := takeAmount?_eq_some hsecond
  have hsplit := List.takeWhile_append_dropWhile (p := isBlank) (l := afterFirst)
  have hblanks : (afterFirst.takeWhile isBlank).all isBlank = true := List.all_takeWhile
  rw [afterText?_eq_some hopen, afterText?_eq_some hsymbol', afterText?_eq_some hclose] at hsplit
  generalize afterFirst.takeWhile isBlank = blanks at hsplit hblanks
  refine ⟨blanks, ?_, hamount, hamount', hblanks⟩
  rw [afterText?_eq_some hsymbol, ← hsplit]
  simp [bracketed]

theorem afterText?_append (word rest : List Char) : afterText? word (word ++ rest) = some rest := by
  induction word with
  | nil => rfl
  | cons w word ih => rw [List.cons_append, afterText?, beq_self_eq_true, if_pos rfl, ih]

theorem takePair?_append {symbol first blanks second : List Char}
    (h : IsPair symbol first blanks second) (rest : List Char) :
    takePair? symbol (symbol ++ first ++ (blanks ++ bracketed symbol second) ++ rest) =
      some (first, second, rest) := by
  have hopen : isBlank '(' = false := by decide
  have hafter : ('(' :: (symbol ++ (second ++ ')' :: rest))).head?.any isBlank = false := hopen
  have hfirst : (blanks ++ '(' :: (symbol ++ (second ++ ')' :: rest))).head?.any isNumeral =
      false := by
    cases blanks with
    | nil => exact show isNumeral '(' = false by decide
    | cons b more => exact isNumeral_of_isBlank (Bool.and_eq_true_iff.mp h.blanks).1
  have hsecond : (')' :: rest).head?.any isNumeral = false := show isNumeral ')' = false by decide
  have hsplit : symbol ++ first ++ (blanks ++ bracketed symbol second) ++ rest =
      symbol ++ (first ++ (blanks ++ '(' :: (symbol ++ (second ++ ')' :: rest)))) := by
    simp [bracketed]
  have hmark : ∀ c (cs : List Char), afterText? [c] (c :: cs) = some cs := fun c cs =>
    afterText?_append [c] cs
  simp only [hsplit, takePair?, Option.bind_eq_bind, Option.bind_some, afterText?_append,
    takeAmount?_append h.first hfirst, dropWhile_of_run h.blanks hafter, hmark,
    takeAmount?_append h.second hsecond]
  rfl

def KeepsSecond (first second : List Char) : Prop := amountSize second > amountSize first * 1.5

/-- What stands in the place of a pair after its first amount. -/
inductive PairEnd (symbol first second : List Char) : List Char → Prop
  | profit (h : KeepsSecond first second) :
    PairEnd symbol first second (" (Profit: ".toList ++ symbol ++ second ++ [')'])
  | dropped (h : ¬KeepsSecond first second) : PairEnd symbol first second []

theorem pairStep_eq_some {symbol cs replacement : List Char} {before : Option Char} {taken : Nat}
    (h : pairStep symbol before cs = some (taken, replacement)) :
    ∃ first blanks second rest ending,
      cs = symbol ++ first ++ (blanks ++ bracketed symbol second) ++ rest ∧
      takePair? symbol cs = some (first, second, rest) ∧ IsPair symbol first blanks second ∧
      taken = (symbol ++ first ++ (blanks ++ bracketed symbol second)).length ∧
      replacement = symbol ++ first ++ ending ∧ PairEnd symbol first second ending := by
  obtain ⟨⟨first, second, rest⟩, hpair, h⟩ := Option.bind_eq_some_iff.mp h
  obtain ⟨blanks, hcs, hispair⟩ := takePair?_eq_some hpair
  cases h
  refine ⟨first, blanks, second, rest, _, hcs, hpair, hispair, ?_, rfl, ?_⟩
  · rw [hcs, List.length_append, Nat.add_sub_cancel_right]
  · split
    · exact .profit ‹_›
    · exact .dropped ‹_›

theorem takes_pairStep (symbol : List Char) : (pairStep symbol).Takes := by
  intro before cs taken replacement h
  obtain ⟨first, blanks, second, rest, ending, hcs, -, hpair, htaken, -⟩ := pairStep_eq_some h
  exact ⟨_, rest, hcs, by simp [hpair.first.ne_nil], htaken⟩

end SalesDesk.Reply
