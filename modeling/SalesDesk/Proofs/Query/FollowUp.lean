import SalesDesk.Proofs.Query.Counts
import SalesDesk.Proofs.Query.Named

/-! Questions of a word and a count alone, and what is read off them: the count and nothing else. -/
namespace SalesDesk

/-- `top 3`, `show 3` or `need 3`. -/
structure FollowUp where
  verb : String
  digits : List Char
  verb_mem : verb ∈ ["top", "show", "need"]
  digits_ne_nil : digits ≠ []
  all_isDigit : digits.all (·.isDigit) = true
  length_le : digits.length ≤ Number.maxIntegerDigits
  /-- Four digits from 2000 on would be a year. -/
  isYear_digits : Query.isYear digits = false

namespace FollowUp

variable (q : FollowUp)

def text : String := q.verb ++ " " ++ String.ofList q.digits

def count : Nat := Number.digitsToNat q.digits

/-- No name of the vocabulary occurs in the question as a whole. -/
def IsFree (v : Vocabulary) : Prop :=
  ∀ column, ∀ name ∈ v.values column, Query.isNamed q.text name = false

theorem isDigit_of_mem {c : Char} (h : c ∈ q.digits) : c.isDigit = true :=
  List.all_eq_true.mp q.all_isDigit c h

theorem toList_text : q.text.toList = q.verb.toList ++ ' ' :: q.digits := by
  simp [text]

theorem of_verbs {P : String → Prop} (h : ∀ verb ∈ ["top", "show", "need"], P verb) : P q.verb :=
  h q.verb q.verb_mem

theorem isPlain_of_isDigit {c : Char} (h : c.isDigit = true) : Text.isPlain c = true := by
  obtain ⟨hlow, hhigh⟩ := Text.toNat_of_isDigit h
  have hall : ∀ n < 58, 48 ≤ n → Text.isPlain (Char.ofNat n) = true := by decide
  simpa using hall c.toNat (by omega) hlow

theorem isBlankText_text : Text.isBlankText q.text = false := by
  have hverbs : ∀ verb ∈ ["top", "show", "need"], verb.toList.all Text.isBlank = false := by decide
  rw [Text.isBlankText, toList_text, List.all_append, q.of_verbs hverbs, Bool.false_and]

theorem lower_text : Text.lower q.text = q.text := by
  have hverbs : ∀ verb ∈ ["top", "show", "need"], verb.toList.all Text.isPlain = true := by decide
  have hdigits : q.digits.all Text.isPlain = true :=
    List.all_eq_true.mpr fun c hc => isPlain_of_isDigit (q.isDigit_of_mem hc)
  apply Text.lower_eq_self
  rw [toList_text, List.all_append, List.all_cons, q.of_verbs hverbs, hdigits]
  rfl

section
variable {belongs : Char → Bool}

/-- A class with small letters and digits, but without blanks, has two runs. -/
theorem runs_text (hverbs : ∀ verb ∈ ["top", "show", "need"],
      verb.toList ≠ [] ∧ verb.toList.all belongs = true)
    (hblank : belongs ' ' = false) (hdigits : ∀ c, c.isDigit = true → belongs c = true) :
    Text.runs belongs q.text.toList = [q.verb.toList, q.digits] := by
  obtain ⟨hne, hverb⟩ := q.of_verbs hverbs
  rw [toList_text, Text.runs_append_cons hblank, Text.runs_eq_singleton hne hverb,
    Text.runs_eq_singleton q.digits_ne_nil
      (List.all_eq_true.mpr fun c hc => hdigits c (q.isDigit_of_mem hc))]
  rfl

end

theorem isWord_of_isDigit (c : Char) (h : c.isDigit = true) : Text.isWord c = true := by
  have hrange := Text.toNat_of_isDigit h
  rw [Text.isWord, if_pos (by omega), Char.isAlphanum, h, Bool.or_true, Bool.true_or]

theorem wordRuns_text : Query.wordRuns q.text = [q.verb.toList, q.digits] :=
  q.runs_text (by decide) (by decide) isWord_of_isDigit

theorem runs_isNameChar_text :
    Text.runs Query.isNameChar q.text.toList = [q.verb.toList, q.digits] :=
  q.runs_text (by decide) (by decide) fun c hc => by simp [Query.isNameChar, hc]

theorem isDigit_digits : ∀ c ∈ q.digits, Text.isDigit c = true := by
  intro c hc
  rw [Text.isDigit, Number.digitValue?_of_isDigit (q.isDigit_of_mem hc), Option.isSome_some]

theorem runs_isDigit_text : Text.runs Text.isDigit q.text.toList = [q.digits] := by
  have hverbs : ∀ verb ∈ ["top", "show", "need"], verb.toList.any Text.isDigit = false := by decide
  rw [toList_text, Text.runs_append_cons (by decide), Text.runs_eq_nil (q.of_verbs hverbs),
    Text.runs_eq_singleton q.digits_ne_nil (List.all_eq_true.mpr q.isDigit_digits)]
  rfl

theorem count?_text : Query.count? q.text = .ok (some (q.count : Int)) := by
  have hfind : (Text.runs Text.isDigit q.text.toList).find? (!Query.isYear ·) = some q.digits := by
    rw [runs_isDigit_text, List.find?_cons, q.isYear_digits]
    rfl
  unfold Query.count?
  rw [hfind]
  simp only [Number.readInt_of_digits q.digits_ne_nil q.isDigit_digits q.length_le,
    Number.map_plainDigit fun _ => q.isDigit_of_mem]
  rfl

theorem months_text : Query.months q.text = [] := by
  have hverbs : ∀ verb ∈ ["top", "show", "need"], verb ∉ monthNames := by decide
  have hnames : ∀ name ∈ monthNames, name.toList.all (·.isDigit) = false := by decide
  have hdigits : String.ofList q.digits ∉ monthNames := by
    intro hmem
    have hall := hnames _ hmem
    rw [String.toList_ofList, q.all_isDigit] at hall
    cases hall
  have hverb := q.of_verbs hverbs
  simp [Query.months, wordRuns_text, hverb, hdigits]

theorem years_text : Query.years q.text = [] := by
  have hverbs : ∀ verb ∈ ["top", "show", "need"], Query.isYear verb.toList = false := by decide
  have hverb := q.of_verbs hverbs
  simp [Query.years, wordRuns_text, hverb, q.isYear_digits]

theorem firstPeriod?_text : Query.firstPeriod? q.text = none := by
  rw [Query.firstPeriod?, months_text, years_text]
  rfl

theorem periods_text : Query.periods q.text = [] := by
  rw [Query.periods, months_text]
  rfl

theorem nameWords_text : Query.nameWords q.text = [] := by
  have hverbs : ∀ verb ∈ ["top", "show", "need"],
      verb.toList.all (·.isDigit) = false ∧ verb ∈ Query.fillerWords := by decide
  obtain ⟨hletters, hfiller⟩ := q.of_verbs hverbs
  rw [Query.nameWords, runs_isNameChar_text]
  simp [hletters, q.all_isDigit, hfiller]

theorem names_text {v : Vocabulary} (h : q.IsFree v) : Query.names q.text v = {} := by
  apply Query.names_of_none _ q.nameWords_text
  intro column
  have hnone : (v.values column).filter (Query.isNamed q.text) = [] :=
    List.filter_eq_nil_iff.mpr fun name hname => by simp [h column name hname]
  rw [Query.exactMatch?, hnone]
  rfl

/-- Has the keyword a character that is none of the letters, no blank and no digit? -/
def isForeign (letters keyword : String) : Bool :=
  keyword.toList.any fun c => !letters.toList.contains c && c != ' ' && !c.isDigit

/-- Keywords with a letter that the verb lacks are not mentioned. -/
theorem mentionsAny_of_lacking {keywords : List String}
    (h : ∀ keyword ∈ keywords, isForeign q.verb keyword = true) :
    Text.mentionsAny q.text keywords = false := by
  apply Text.mentionsAny_of_absent
  intro keyword hkeyword
  obtain ⟨c, hc, hforeign⟩ := List.any_eq_true.mp (h keyword hkeyword)
  refine ⟨c, hc, fun htext => ?_⟩
  rw [toList_text] at htext
  rcases List.mem_append.mp htext with hverb | hrest
  · simp [hverb] at hforeign
  · rcases List.mem_cons.mp hrest with rfl | hdigit
    · simp at hforeign
    · simp [q.isDigit_of_mem hdigit] at hforeign

/-- Keywords with a letter that all three verbs lack are not mentioned. -/
theorem mentionsAny_of_foreign {keywords : List String}
    (h : ∀ keyword ∈ keywords, isForeign "topshowneed" keyword = true) :
    Text.mentionsAny q.text keywords = false := by
  have hletters : ∀ verb ∈ ["top", "show", "need"],
      verb.toList.all ("topshowneed".toList.contains ·) = true := by decide
  have hverb := List.all_eq_true.mp (q.of_verbs hletters)
  apply q.mentionsAny_of_lacking
  intro keyword hkeyword
  obtain ⟨c, hc, hforeign⟩ := List.any_eq_true.mp (h keyword hkeyword)
  obtain ⟨hparts, hdigit⟩ := Bool.and_eq_true_iff.mp hforeign
  obtain ⟨hletter, hblank⟩ := Bool.and_eq_true_iff.mp hparts
  have hlacks : q.verb.toList.contains c = false := by
    cases hin : q.verb.toList.contains c with
    | false => rfl
    | true =>
      rw [hverb c (List.contains_iff_mem.mp hin)] at hletter
      cases hletter
  exact List.any_eq_true.mpr ⟨c, hc, by rw [hlacks, hblank, hdigit]; rfl⟩

theorem mentions_verb : Text.mentions q.text q.verb = true := by
  have hmem : q.verb.toList ∈ Text.runs Text.isWord q.text.toList := by
    rw [← Query.wordRuns, wordRuns_text]
    exact List.mem_cons_self
  simpa using Text.mentions_of_mem_runs hmem

theorem mentionsAny_verb {keywords : List String} (h : q.verb ∈ keywords) :
    Text.mentionsAny q.text keywords = true :=
  List.any_eq_true.mpr ⟨q.verb, h, q.mentions_verb⟩

theorem intent_text : Query.intent q.text = if q.verb = "top" then .ranking else .general := by
  rw [Query.intent, Query.intentRules,
    Query.firstRule_cons_of_absent (q.mentionsAny_of_foreign (by decide)),
    Query.firstRule_cons_of_absent (q.mentionsAny_of_foreign (by decide))]
  by_cases htop : q.verb = "top"
  · rw [if_pos htop, Query.firstRule_cons_of_mentioned (q.mentionsAny_verb (by rw [htop]; decide))]
    rfl
  · have hverb : q.verb = "show" ∨ q.verb = "need" := by simpa [htop] using q.verb_mem
    have hlacks : ∀ verb, verb = "show" ∨ verb = "need" → ∀ rule ∈ Query.intentRules.drop 2,
        ∀ keyword ∈ rule.1, isForeign verb keyword = true := by
      rintro verb (rfl | rfl) <;> decide
    rw [if_neg htop]
    have hnone := Query.firstRule_eq_none fun rule hrule =>
      q.mentionsAny_of_lacking (hlacks q.verb hverb rule hrule)
    simp only [Query.intentRules, List.drop_succ_cons, List.drop_zero] at hnone
    rw [hnone]
    rfl

theorem firstRule_of_foreign {β : Type} {rules : List (List String × β)}
    (h : ∀ rule ∈ rules, ∀ keyword ∈ rule.1, isForeign "topshowneed" keyword = true) :
    Query.firstRule rules q.text = none :=
  Query.firstRule_eq_none fun rule hrule => q.mentionsAny_of_foreign (h rule hrule)

theorem grouping?_text : Query.grouping? q.text = none := q.firstRule_of_foreign (by decide)

theorem measure?_text : Query.measure? q.text = none := q.firstRule_of_foreign (by decide)

end FollowUp

end SalesDesk
