import SalesDesk.Text.CharClass

/-!
The numbers that stand in a text: digits in a row, with commas between digits and a fraction after a
point between digits. They are read from left to right, and what has been read before a text counts
only if the text goes on with a number.
-/
namespace SalesDesk.Text

inductive Part
  | outside | whole | fraction
deriving DecidableEq

/-- A digit begins a number or goes on with it; before a digit a comma goes on with the whole part,
and a point begins the fraction. -/
def Part.next (p : Part) (c : Char) (after : Option Char) : Part :=
  if isDigit c then if p = outside then whole else p
  else if p = whole ∧ after.any isDigit = true then
    if c = ',' then whole else if c = '.' then fraction else outside
  else outside

def scan (p : Part) : List Char → List Char × List (List Char)
  | [] => ([], [])
  | c :: rest =>
    let q := p.next c rest.head?
    let found := scan q rest
    if q = .outside then ([], found.2)
    else if p = .outside then ([], (c :: found.1) :: found.2)
    else (c :: found.1, found.2)

/-- The numbers of a text. -/
def numbersIn (cs : List Char) : List (List Char) := (scan .outside cs).2

example : numbersIn "of 1,25,000.50.7, 3.".toList =
    ["1,25,000.50".toList, "7".toList, "3".toList] := by decide

def goesOn : List Char → Bool
  | [] => false
  | c :: rest => isDigit c || (c == ',' || c == '.') && rest.head?.any isDigit

def isNumeral (c : Char) : Bool := isDigit c || c == ',' || c == '.'

theorem isDigit_of_isNumeral {c : Char} (h : isNumeral c = false) : isDigit c = false := by
  simp only [isNumeral, Bool.or_eq_false_iff] at h
  exact h.1.1

theorem Part.next_of_last {p : Part} {c : Char} {after : Option Char} (hc : isDigit c = false)
    (hafter : after.any isDigit = false) : p.next c after = outside := by
  simp [next, hc, hafter]

theorem Part.next_of_not_numeral (p : Part) {c : Char} (after : Option Char)
    (h : isNumeral c = false) : p.next c after = outside := by
  simp only [isNumeral, Bool.or_eq_false_iff, beq_eq_false_iff_ne] at h
  simp [next, h]

theorem Part.next_congr (p : Part) (c : Char) {after after' : Option Char}
    (h : after.any isDigit = after'.any isDigit) : p.next c after = p.next c after' := by
  simp only [next, h]

section
variable {xs ys : List Char}

theorem scan_cons (p : Part) (c : Char) (cs : List Char) :
    scan p (c :: cs) =
      if p.next c cs.head? = .outside then ([], (scan (p.next c cs.head?) cs).2)
      else if p = .outside then
        ([], (c :: (scan (p.next c cs.head?) cs).1) :: (scan (p.next c cs.head?) cs).2)
      else (c :: (scan (p.next c cs.head?) cs).1, (scan (p.next c cs.head?) cs).2) := rfl

/-- A number being read ends where the text does not go on with it. -/
theorem scan_of_goesOn (p : Part) (h : goesOn ys = false) : scan p ys = ([], numbersIn ys) := by
  cases ys with
  | nil => rfl
  | cons c rest =>
    have hnext : ∀ q : Part, q.next c rest.head? = .outside := by
      intro q
      simp only [goesOn, Bool.or_eq_false_iff, Bool.and_eq_false_iff, beq_eq_false_iff_ne] at h
      rcases h.2 with hc | hafter
      · simp [Part.next, h.1, hc]
      · exact Part.next_of_last h.1 hafter
    rw [numbersIn, scan_cons, scan_cons, hnext, hnext, if_pos rfl, if_pos rfl]

theorem head?_any_isDigit_of_goesOn (h : goesOn ys = false) : ys.head?.any isDigit = false := by
  cases ys with
  | nil => rfl
  | cons c rest => exact (Bool.or_eq_false_iff.mp h).1

/-- The numbers of two texts in a row, the second of which does not go on with a number. -/
theorem scan_append (p : Part) (h : goesOn ys = false) :
    scan p (xs ++ ys) = ((scan p xs).1, (scan p xs).2 ++ numbersIn ys) := by
  induction xs generalizing p with
  | nil => exact scan_of_goesOn p h
  | cons c rest ih =>
    have hnext : p.next c (rest ++ ys).head? = p.next c rest.head? := by
      apply Part.next_congr
      cases rest with
      | nil => exact head?_any_isDigit_of_goesOn h
      | cons d rest => rfl
    rw [List.cons_append, scan_cons, scan_cons, hnext, ih]
    split
    · rfl
    · split <;> rfl

theorem numbersIn_append (h : goesOn ys = false) :
    numbersIn (xs ++ ys) = numbersIn xs ++ numbersIn ys :=
  congrArg Prod.snd (scan_append .outside h)

theorem numbersIn_cons_of_not_numeral {c : Char} (h : isNumeral c = false) (cs : List Char) :
    numbersIn (c :: cs) = numbersIn cs := by
  rw [numbersIn, scan_cons, Part.next_of_not_numeral _ _ h, if_pos rfl, numbersIn]

theorem goesOn_cons_of_not_numeral {c : Char} (h : isNumeral c = false) (cs : List Char) :
    goesOn (c :: cs) = false := by
  simp only [isNumeral, Bool.or_eq_false_iff] at h
  simp [goesOn, h]

/-- What can stand in no number stands between the numbers of both sides. -/
theorem numbersIn_append_cons {c : Char} (h : isNumeral c = false) (xs ys : List Char) :
    numbersIn (xs ++ c :: ys) = numbersIn xs ++ numbersIn ys := by
  rw [numbersIn_append (goesOn_cons_of_not_numeral h ys), numbersIn_cons_of_not_numeral h]

theorem numbersIn_append_of_not_numeral (h : xs.any isNumeral = false) (ys : List Char) :
    numbersIn (xs ++ ys) = numbersIn ys := by
  induction xs with
  | nil => rfl
  | cons c rest ih =>
    obtain ⟨hc, hrest⟩ := Bool.or_eq_false_iff.mp h
    rw [List.cons_append, numbersIn_cons_of_not_numeral hc, ih hrest]

/-- Whatever follows, no number goes on over a character at the end that is no digit, unless a digit
comes next. -/
theorem scan_append_of_last (p : Part) (hlast : xs.getLast?.any (!isDigit ·) = true)
    (h : ys.head?.any isDigit = false) :
    scan p (xs ++ ys) = ((scan p xs).1, (scan p xs).2 ++ numbersIn ys) := by
  induction xs generalizing p with
  | nil => cases hlast
  | cons c rest ih =>
    cases rest with
    | nil =>
      have hc : isDigit c = false := by simpa using hlast
      rw [List.singleton_append, scan_cons, scan_cons, Part.next_of_last hc h,
        Part.next_of_last hc rfl, if_pos rfl, if_pos rfl]
      rfl
    | cons d rest =>
      rw [List.getLast?_cons_cons] at hlast
      rw [List.cons_append, scan_cons, scan_cons, ih _ hlast]
      rw [List.cons_append, List.head?_cons, List.head?_cons]
      split
      · rfl
      · split <;> rfl

end

/-- Another text stands in the place of a text. Whatever number has been begun before it, the same
goes on with it, and the numbers after it are related. -/
structure ReadsAs (R : List (List Char) → List (List Char) → Prop) (cs out : List Char) : Prop where
  begun (p : Part) : (scan p out).1 = (scan p cs).1
  later (p : Part) : R (scan p out).2 (scan p cs).2
  head : out.head?.any isDigit = cs.head?.any isDigit
  goesOn : goesOn out = goesOn cs

namespace ReadsAs

variable {R : List (List Char) → List (List Char) → Prop} {cs out : List Char}

theorem nil (hR : R [] []) : ReadsAs R [] [] := ⟨fun _ => rfl, fun _ => hR, rfl, rfl⟩

theorem cons (hR : ∀ n xs ys, R xs ys → R (n :: xs) (n :: ys)) (h : ReadsAs R cs out)
    (c : Char) : ReadsAs R (c :: cs) (c :: out) := by
  have hnext : ∀ p : Part, p.next c out.head? = p.next c cs.head? := fun p =>
    p.next_congr c h.head
  refine ⟨fun p => ?_, fun p => ?_, rfl, ?_⟩
  · rw [scan_cons, scan_cons, hnext, h.begun]
    split
    · rfl
    · split <;> rfl
  · rw [scan_cons, scan_cons, hnext, h.begun]
    split
    · exact h.later _
    · split
      · exact hR _ _ _ (h.later _)
      · exact h.later _
  · rw [Text.goesOn, Text.goesOn, h.head]

theorem append_left (hR : ∀ n xs ys, R xs ys → R (n :: xs) (n :: ys)) (h : ReadsAs R cs out)
    (start : List Char) : ReadsAs R (start ++ cs) (start ++ out) := by
  induction start with
  | nil => exact h
  | cons c rest ih => exact ih.cons hR c

/-- What can stand in no number may be changed into other such characters. -/
theorem swap (h : ReadsAs R cs out) {old new : List Char} (hold : old ≠ []) (hnew : new ≠ [])
    (hold' : old.any isNumeral = false) (hnew' : new.any isNumeral = false) :
    ReadsAs R (old ++ cs) (new ++ out) := by
  have hscan : ∀ {piece : List Char}, piece ≠ [] → piece.any isNumeral = false →
      ∀ more : List Char, Text.goesOn (piece ++ more) = false ∧
        (piece ++ more).head?.any isDigit = false ∧
        ∀ p, scan p (piece ++ more) = ([], numbersIn more) := by
    intro piece hne hpiece more
    obtain ⟨c, rest, rfl⟩ := List.exists_cons_of_ne_nil hne
    have hc := (Bool.or_eq_false_iff.mp hpiece).1
    have hgoes : Text.goesOn (c :: rest ++ more) = false := goesOn_cons_of_not_numeral hc _
    refine ⟨hgoes, head?_any_isDigit_of_goesOn hgoes, fun p => ?_⟩
    rw [scan_of_goesOn p hgoes, numbersIn_append_of_not_numeral hpiece]
  obtain ⟨hgoes, hhead, hold⟩ := hscan hold hold' cs
  obtain ⟨hgoes', hhead', hnew⟩ := hscan hnew hnew' out
  refine ⟨fun p => ?_, fun p => ?_, by rw [hhead, hhead'], by rw [hgoes, hgoes']⟩
  · rw [hold, hnew]
  · rw [hold, hnew]
    exact h.later .outside

end ReadsAs

end SalesDesk.Text
