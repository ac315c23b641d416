import SalesDesk.Proofs.Distinct
import SalesDesk.Proofs.Text.Places
import SalesDesk.Query.Numbers

/-!
Months and years as a text mentions them, place by place, and the periods made of them. The periods
follow the different months that are mentioned: a month that is mentioned again makes no period, and
the years after it go with other months than those they stand with.
-/
namespace SalesDesk.Query

/-- The months that a text mentions, one for each place where the name of one stands whole. -/
def mentionedMonths (text : String) : List String :=
  (Text.places none text.toList).flatMap fun p =>
    monthNames.filter fun name => Text.phraseHere name.toList p.1 p.2

def numberOf (digits : List Char) : Int := Number.digitsToNat (digits.map Number.plainDigit)

/-- The years of this century that a text mentions, one for each place where one stands whole. -/
def mentionedYears (text : String) : List Int :=
  (Text.places none text.toList).flatMap fun p =>
    if isYear (p.2.take 4) && Text.phraseHere (p.2.take 4) p.1 p.2 then [numberOf (p.2.take 4)]
    else []

theorem length_of_isYear {w : List Char} (h : isYear w = true) : w.length = 4 := by
  unfold isYear at h
  split at h
  · rfl
  · cases h

theorem all_isWord_of_isYear {w : List Char} (h : isYear w = true) : w.all Text.isWord = true := by
  unfold isYear at h
  split at h
  · rename_i c d
    rw [Bool.and_eq_true] at h
    have htwo : Text.isWord '2' = true := by decide
    have hzero : Text.isWord '0' = true := by decide
    simp [htwo, hzero, Text.isWord_of_digit h.1, Text.isWord_of_digit h.2]
  · cases h

/-- The month that a word is the name of, if any. -/
def monthsOf (w : List Char) : List String := monthNames.filter fun name => w == name.toList

def yearsOf (w : List Char) : List Int := if isYear w then [numberOf w] else []

theorem monthsOf_eq (w : List Char) : monthsOf w =
    if monthNames.contains (String.ofList w) then [String.ofList w] else [] := by
  have hnodup : monthNames.Nodup := by decide
  have hname : ∀ name ∈ monthNames, (w == name.toList) = (name == String.ofList w) := by
    intro name _
    rw [Bool.eq_iff_iff, beq_iff_eq, beq_iff_eq]
    constructor
    · rintro rfl
      exact String.ofList_toList.symm
    · rintro rfl
      exact String.toList_ofList.symm
  rw [monthsOf, List.filter_congr hname, List.filter_beq, hnodup.count, List.contains_eq_mem]
  split <;> simp [*]

/-- Months are mentioned by the words that are their names. -/
theorem mentionedMonths_eq (text : String) :
    mentionedMonths text = ((wordRuns text).map String.ofList).filter monthNames.contains := by
  have hplace : ∀ p : Option Char × List Char,
      (monthNames.filter fun name => Text.phraseHere name.toList p.1 p.2) =
        if Text.wordAt p.1 then [] else monthsOf (p.2.takeWhile Text.isWord) := by
    intro p
    have hwords : ∀ name ∈ monthNames, name.toList.all Text.isWord = true := by decide
    rw [List.filter_congr fun name hname => Text.phraseHere_eq_beq (hwords name hname) p.1 p.2]
    cases Text.wordAt p.1 <;> simp [monthsOf]
  have hnone : monthsOf [] = [] := by decide
  simp only [mentionedMonths, hplace]
  rw [Text.flatMap_places hnone, ← wordRuns]
  induction wordRuns text with
  | nil => rfl
  | cons w ws ih =>
    rw [List.flatMap_cons, ih, monthsOf_eq, List.map_cons, List.filter_cons]
    split <;> rfl

/-- A year at the beginning of a word is made of the first four characters from there on. -/
theorem takeWhile_of_isYear {cs : List Char} (h : isYear (cs.takeWhile Text.isWord) = true) :
    cs.takeWhile Text.isWord = cs.take 4 := by
  have hprefix := List.prefix_iff_eq_take.mp (List.takeWhile_prefix Text.isWord (l := cs))
  rwa [length_of_isYear h] at hprefix

/-- The year that stands whole at a place is that of the word that begins there. -/
theorem yearHere_eq (before : Option Char) (cs : List Char) :
    (if isYear (cs.take 4) && Text.phraseHere (cs.take 4) before cs then [numberOf (cs.take 4)]
      else []) =
      if Text.wordAt before then [] else yearsOf (cs.takeWhile Text.isWord) := by
  by_cases hsame : cs.takeWhile Text.isWord = cs.take 4
  · cases hyear : isYear (cs.take 4) with
    | true =>
      rw [Text.phraseHere_eq_beq (all_isWord_of_isYear hyear), hsame]
      cases Text.wordAt before <;> simp [yearsOf, hyear]
    | false => simp [yearsOf, hsame, hyear]
  · have hother : isYear (cs.takeWhile Text.isWord) = false :=
      Bool.eq_false_iff.mpr (mt takeWhile_of_isYear hsame)
    cases hyear : isYear (cs.take 4) with
    | true =>
      rw [Text.phraseHere_eq_beq (all_isWord_of_isYear hyear)]
      simp [yearsOf, hsame, hother]
    | false => simp [yearsOf, hother]

theorem mentionedYears_eq (text : String) : mentionedYears text = years text := by
  simp only [mentionedYears, yearHere_eq]
  rw [Text.flatMap_places (f := yearsOf) rfl, ← wordRuns, years]
  induction wordRuns text with
  | nil => rfl
  | cons w ws ih =>
    rw [List.flatMap_cons, ih, yearsOf, List.filter_cons]
    split <;> rfl

theorem months_eq (text : String) : months text = (mentionedMonths text).eraseDups := by
  rw [months, mentionedMonths_eq]

/-- One period for each month, in order. As many years as months belong to them one by one, a single
year belongs to all of them, and without years no period has one; several years go with the months
as far as they reach. -/
structure Aligned (names : List String) (years : List Int) (ps : List Period) : Prop where
  named : ps.map (·.month) = names.map some
  paired : years.length = names.length → ps.map (·.year) = years.map some
  single : ∀ year, years = [year] → ∀ p ∈ ps, p.year = some year
  undated : years = [] → ∀ p ∈ ps, p.year = none
  several : 1 < years.length → ∀ (i : Nat) (p : Period), ps[i]? = some p →
    p.year = years[i]?.or years.head?

theorem yearAt_eq_or {years : List Int} (h : 1 < years.length) (i : Nat) :
    yearAt years i = years[i]?.or years.head? := by
  rw [yearAt, decide_eq_true h, Bool.true_and]
  by_cases hi : i < years.length
  · rw [if_pos (decide_eq_true hi), List.getElem?_eq_getElem hi, Option.some_or]
  · have hnone : years[i]? = none := List.getElem?_eq_none (by omega)
    rw [if_neg (by simpa using hi), hnone, Option.none_or]

theorem yearAt_of_lt {years : List Int} {i : Nat} (h : i < years.length) :
    yearAt years i = years[i]? := by
  by_cases hlength : 1 < years.length
  · rw [yearAt_eq_or hlength, List.getElem?_eq_getElem h, Option.some_or]
  · obtain rfl : i = 0 := by omega
    rw [yearAt, decide_eq_false hlength, Bool.false_and, if_neg Bool.false_ne_true,
      List.head?_eq_getElem?]

theorem getElem?_periods (text : String) (i : Nat) :
    (periods text)[i]? = (months text)[i]?.map fun name => ⟨some name, yearAt (years text) i⟩ := by
  simp [periods, List.getElem?_zipIdx, Function.comp_def]

theorem exists_of_mem_periods {text : String} {p : Period} (h : p ∈ periods text) :
    ∃ i, p.year = yearAt (years text) i := by
  obtain ⟨i, hi⟩ := List.mem_iff_getElem?.mp h
  rw [getElem?_periods] at hi
  obtain ⟨name, -, rfl⟩ := Option.map_eq_some_iff.mp hi
  exact ⟨i, rfl⟩

/-- Periods are aligned with the different months of a text. -/
theorem aligned_periods (text : String) : Aligned (months text) (years text) (periods text) where
  named := by
    apply List.ext_getElem?
    intro i
    rw [List.getElem?_map, List.getElem?_map, getElem?_periods, Option.map_map]
    rfl
  paired hlength := by
    apply List.ext_getElem?
    intro i
    rw [List.getElem?_map, List.getElem?_map, getElem?_periods, Option.map_map]
    by_cases hi : i < (years text).length
    · have hmonth : i < (months text).length := by omega
      simp [Function.comp_def, yearAt_of_lt hi, hi, hmonth]
    · have hmonth : (months text)[i]? = none := List.getElem?_eq_none (by omega)
      have hyear : (years text)[i]? = none := List.getElem?_eq_none (by omega)
      rw [hmonth, hyear]
      rfl
  single year hyears p hp := by
    obtain ⟨i, hi⟩ := exists_of_mem_periods hp
    rw [hi, hyears]
    simp [yearAt]
  undated hyears p hp := by
    obtain ⟨i, hi⟩ := exists_of_mem_periods hp
    rw [hi, hyears]
    simp [yearAt]
  several hlength i p hp := by
    rw [getElem?_periods] at hp
    obtain ⟨name, -, rfl⟩ := Option.map_eq_some_iff.mp hp
    exact yearAt_eq_or hlength i

theorem firstPeriod?_eq (text : String) : firstPeriod? text =
    if mentionedMonths text = [] ∧ mentionedYears text = [] then none
    else some ⟨(mentionedMonths text).head?, (mentionedYears text).head?⟩ := by
  have hfirst : (months text).head? = (mentionedMonths text).head? := by
    rw [months_eq]
    cases mentionedMonths text <;> simp [List.eraseDups_cons]
  rw [firstPeriod?, hfirst, ← mentionedYears_eq]
  cases mentionedMonths text <;> cases mentionedYears text <;> simp

/-- The periods of a text are aligned with the different months that it mentions, and so with all
mentions of months only where none is mentioned again. The first month and the first year that are
mentioned make up the single period, if there is any of them. -/
theorem periods_aligned_iff (text : String) :
    Aligned (mentionedMonths text).eraseDups (mentionedYears text) (periods text) ∧
    (Aligned (mentionedMonths text) (mentionedYears text) (periods text) ↔
      (mentionedMonths text).Nodup) ∧
    firstPeriod? text =
      if mentionedMonths text = [] ∧ mentionedYears text = [] then none
      else some ⟨(mentionedMonths text).head?, (mentionedYears text).head?⟩ := by
  have haligned := aligned_periods text
  rw [months_eq, ← mentionedYears_eq] at haligned
  refine ⟨haligned, ?_, firstPeriod?_eq text⟩
  rw [← eraseDups_eq_self_iff]
  constructor
  · intro hall
    have hsame := haligned.named.symm.trans hall.named
    exact List.map_injective_iff.mpr (fun _ _ => Option.some.inj) hsame
  · intro hsame
    rwa [hsame] at haligned

/-- The same month of two years. -/
def twoAprils : String := "april 2023 vs april 2024"

/-- The same month of two years, and another month of a third one. -/
def aprilsAndMay : String := "april 2023, april 2024 and may 2025"

/-- A month that is mentioned again makes no period, and the month after it gets its year. -/
theorem periods_lose_second_april :
    (Text.lower twoAprils = twoAprils ∧ mentionedMonths twoAprils = ["april", "april"] ∧
      mentionedYears twoAprils = [2023, 2024] ∧
      periods twoAprils = [⟨some "april", some 2023⟩] ∧
      ¬Aligned (mentionedMonths twoAprils) (mentionedYears twoAprils) (periods twoAprils)) ∧
    Text.lower aprilsAndMay = aprilsAndMay ∧
      mentionedMonths aprilsAndMay = ["april", "april", "may"] ∧
      mentionedYears aprilsAndMay = [2023, 2024, 2025] ∧
      periods aprilsAndMay = [⟨some "april", some 2023⟩, ⟨some "may", some 2024⟩] ∧
      ¬Aligned (mentionedMonths aprilsAndMay) (mentionedYears aprilsAndMay)
        (periods aprilsAndMay) := by
  have htwo : periods twoAprils = [⟨some "april", some 2023⟩] := by decide +kernel
  have hthree : periods aprilsAndMay = [⟨some "april", some 2023⟩, ⟨some "may", some 2024⟩] := by
    decide +kernel
  refine ⟨⟨by decide +kernel, by decide +kernel, by decide +kernel, htwo, ?_⟩, by decide +kernel,
    by decide +kernel, by decide +kernel, hthree, ?_⟩
  · intro h
    exact absurd h.named (by decide +kernel)
  · intro h
    exact absurd h.named (by decide +kernel)

end SalesDesk.Query
