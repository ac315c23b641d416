import SalesDesk.Proofs.Number.Digits
import SalesDesk.Proofs.Text.Fragments
import SalesDesk.Value.Json
import Mathlib.Data.List.Basic

/-!
The texts in a value, and fragments of its JSON text. Between the texts a JSON text has brackets and
other marks, numbers and a few words. A fragment that is part of none of these, and that no mark
parts, stands in the small letters of a JSON text exactly if it stands in those of one of the texts,
as it is written there.
-/
namespace SalesDesk

namespace Value

mutual

def texts : Value → List String
  | null | bool _ | int _ | number _ => []
  | text s => [s]
  | date d => [d.iso]
  | moment m => [m.withMark " "]
  | list items => itemTexts items
  | object fields => fieldTexts fields

def itemTexts : List Value → List String
  | [] => []
  | v :: rest => v.texts ++ itemTexts rest

def fieldTexts : Entries Value → List String
  | [] => []
  | (name, v) :: rest => name :: (v.texts ++ fieldTexts rest)

end

end Value

namespace Number

def numberMarks : List Char := ['.', '+', '-', 'e']

def inNumber (c : Char) : Bool := c.isDigit || numberMarks.contains c

theorem inNumber_of_isDigit {c : Char} (h : c.isDigit = true) : inNumber c = true := by
  rw [inNumber, h, Bool.true_or]

theorem mem_of_mem_trimZeros {cs : List Char} {c : Char} (h : c ∈ trimZeros cs) : c ∈ cs := by
  have hrest := (List.dropWhile_suffix (· == '0')).subset (List.mem_reverse.mp h)
  exact List.mem_reverse.mp hrest

theorem inNumber_positional {ds : List Char} (h : ∀ c ∈ ds, inNumber c = true) (point : Int) :
    ∀ c ∈ positional ds point, inNumber c = true := by
  have hzeros : ∀ n, ∀ c ∈ List.replicate n '0', inNumber c = true := by
    intro n c hc
    rw [List.eq_of_mem_replicate hc]
    decide
  unfold positional
  split
  · simp only [List.forall_mem_cons, List.forall_mem_append]
    exact ⟨by decide, by decide, hzeros _, h⟩
  · split
    · simp only [List.forall_mem_append]
      exact ⟨⟨h, hzeros _⟩, List.all_eq_true.mp (by decide)⟩
    · simp only [List.forall_mem_append, List.forall_mem_cons]
      exact ⟨fun c hc => h c (List.mem_of_mem_take hc), by decide,
        fun c hc => h c (List.mem_of_mem_drop hc)⟩

theorem inNumber_withExponent {f : DoubleFormat} (hf : f.exponentMark = 'e') {ds : List Char}
    (h : ∀ c ∈ ds, inNumber c = true) (exponent : Int) :
    ∀ c ∈ withExponent f ds exponent, inNumber c = true := by
  have htake : ∀ c ∈ ds.take 1, inNumber c = true := fun c hc => h c (List.mem_of_mem_take hc)
  have hdrop : ∀ c ∈ ds.drop 1, inNumber c = true := fun c hc => h c (List.mem_of_mem_drop hc)
  have hjoined : ∀ c ∈ joinPoint (ds.take 1) (ds.drop 1), inNumber c = true := by
    unfold joinPoint
    split
    · exact htake
    · simp only [List.forall_mem_append, List.forall_mem_cons]
      exact ⟨htake, by decide, hdrop⟩
  simp only [withExponent, List.forall_mem_append, List.forall_mem_cons]
  refine ⟨hjoined, by rw [hf]; decide, ?_, fun c hc => inNumber_of_isDigit (isDigit_padLeft c hc)⟩
  split <;> decide

theorem inNumber_size {f : DoubleFormat} (hf : f.exponentMark = 'e') (x : Float) :
    ∀ c ∈ f.size x, inNumber c = true := by
  have hdigits : ∀ n, ∀ c ∈ trimZeros (digits n), inNumber c = true :=
    fun n c hc => inNumber_of_isDigit (isDigit_digits c (mem_of_mem_trimZeros hc))
  unfold DoubleFormat.size
  dsimp only
  split
  · exact List.all_eq_true.mp (by decide)
  · split
    · exact inNumber_positional (hdigits _) _
    · exact inNumber_withExponent hf (hdigits _) _

/-- A number in a JSON text is one of three words, or is written in digits and marks alone. -/
theorem jsonDouble_text (x : Float) : jsonDouble.text x ∈ ["NaN", "Infinity", "-Infinity"] ∨
    ∀ c ∈ (jsonDouble.text x).toList, inNumber c = true := by
  unfold DoubleFormat.text
  split
  · exact .inl (by decide)
  · dsimp only
    by_cases hinf : x.isInf = true
    · left
      rw [if_pos hinf]
      split <;> decide
    · right
      rw [if_neg hinf, String.toList_append, String.toList_ofList]
      refine List.forall_mem_append.mpr ⟨List.all_eq_true.mp ?_, inNumber_size rfl x⟩
      split <;> decide

theorem inNumber_toString (n : Int) : ∀ c ∈ (toString n).toList, inNumber c = true := by
  have hdigits : ∀ m : Nat, ∀ c ∈ (toString m).toList, inNumber c = true := by
    intro m c hc
    rw [Nat.toString_eq_ofList_toDigits, String.toList_ofList] at hc
    exact inNumber_of_isDigit (isDigit_digits c hc)
  cases n with
  | ofNat m => exact hdigits m
  | negSucc m =>
    change ∀ c ∈ ("-" ++ toString (m + 1)).toList, inNumber c = true
    rw [String.toList_append]
    exact List.forall_mem_append.mpr ⟨List.all_eq_true.mp (by decide), hdigits _⟩

end Number

namespace Json

open Text

def marks : List Char := ['[', ']', '\x7b', '\x7d', ',', ':', ' ']

/-- The values that a JSON text has words for. -/
def words : List String := ["null", "true", "false", "NaN", "Infinity", "-Infinity"]

/-- A fragment that stands in no part of a JSON text but in its texts. -/
structure InTextsOnly (fragment : List Char) : Prop where
  ne_nil : fragment ≠ []
  unmarked : ∀ c ∈ marks, c ∉ fragment
  unworded : ∀ word ∈ words, ¬fragment <:+: smallLetters word.toList
  unnumbered : ∃ c ∈ fragment, Number.inNumber c = false

theorem isPlain_of_inNumber {c : Char} (h : Number.inNumber c = true) : isPlain c = true := by
  rcases Bool.or_eq_true_iff.mp h with hdigit | hmark
  · have hall : ∀ n ∈ List.range' 48 10, isPlain (Char.ofNat n) = true := by decide
    have hrange := toNat_of_isDigit hdigit
    rw [← Char.ofNat_toNat c]
    exact hall c.toNat (List.mem_range'_1.mpr ⟨hrange.1, by omega⟩)
  · have hall : Number.numberMarks.all isPlain = true := by decide
    exact List.all_eq_true.mp hall c (List.contains_iff_mem.mp hmark)

theorem isPlain_of_mem_marks : ∀ c ∈ marks, isPlain c = true := List.all_eq_true.mp (by decide)

namespace InTextsOnly

variable {fragment : List Char}

theorem infix_append_mark (h : InTextsOnly fragment) {c : Char} (hc : c ∈ marks)
    (xs ys : List Char) : fragment <:+: smallLetters (xs ++ c :: ys) ↔
      fragment <:+: smallLetters xs ∨ fragment <:+: smallLetters ys := by
  have hself : smallLetters [c] = [c] :=
    smallLetters_of_plain (List.forall_mem_singleton.mpr (isPlain_of_mem_marks c hc))
  rw [List.append_cons, smallLetters_append, smallLetters_append, hself, List.append_assoc,
    List.singleton_append, infix_append_cons_iff (h.unmarked c hc)]

theorem not_infix_nil (h : InTextsOnly fragment) : ¬fragment <:+: smallLetters [] :=
  fun hpart => h.ne_nil (List.infix_nil.mp hpart)

theorem not_infix_number (h : InTextsOnly fragment) {cs : List Char}
    (hcs : ∀ c ∈ cs, Number.inNumber c = true) : ¬fragment <:+: smallLetters cs := by
  obtain ⟨c, hc, hout⟩ := h.unnumbered
  rw [smallLetters_of_plain fun c hc => isPlain_of_inNumber (hcs c hc)]
  intro hpart
  have hin := hcs c (hpart.subset hc)
  rw [hout] at hin
  cases hin

theorem infix_intercalate (h : InTextsOnly fragment) (parts : List String) :
    fragment <:+: smallLetters (String.intercalate ", " parts).toList ↔
      ∃ part ∈ parts, fragment <:+: smallLetters part.toList := by
  have hparts : ∀ parts : List (List Char),
      fragment <:+: smallLetters ((", ".toList).intercalate parts) ↔
        ∃ part ∈ parts, fragment <:+: smallLetters part := by
    intro parts
    induction parts with
    | nil => exact iff_of_false h.not_infix_nil (by simp)
    | cons part rest ih =>
      cases rest with
      | nil => simp
      | cons next rest =>
        have hsplit : (", ".toList).intercalate (part :: next :: rest) =
            part ++ ',' :: ([] ++ ' ' :: (", ".toList).intercalate (next :: rest)) := by
          rw [List.intercalate_cons_cons, List.append_assoc]
          rfl
        rw [hsplit, h.infix_append_mark (by decide), h.infix_append_mark (by decide), ih,
          or_iff_right h.not_infix_nil, List.exists_mem_cons_iff _ part]
  rw [String.toList_intercalate, hparts]
  simp only [List.mem_map, exists_exists_and_eq_and]

theorem infix_enclosed (h : InTextsOnly fragment) {first last : Char} (hfirst : first ∈ marks)
    (hlast : last ∈ marks) (cs : List Char) :
    fragment <:+: smallLetters (first :: (cs ++ [last])) ↔ fragment <:+: smallLetters cs := by
  have hopen := h.infix_append_mark hfirst [] (cs ++ [last])
  rw [List.nil_append] at hopen
  rw [hopen, h.infix_append_mark hlast, or_iff_right h.not_infix_nil, or_iff_left h.not_infix_nil]

mutual

/-- The fragment stands in a JSON text where it stands in one of the texts. -/
theorem infix_line (h : InTextsOnly fragment) (v : Value) :
    fragment <:+: smallLetters (line v).toList ↔
      ∃ s ∈ v.texts, fragment <:+: smallLetters (textOf s).toList := by
  match v with
  | .null => exact iff_of_false (h.unworded _ (by decide)) (by simp [Value.texts])
  | .bool b =>
    refine iff_of_false ?_ (by simp [Value.texts])
    cases b with
    | true => exact h.unworded "true" (by decide)
    | false => exact h.unworded "false" (by decide)
  | .int n =>
    exact iff_of_false (h.not_infix_number (Number.inNumber_toString n)) (by simp [Value.texts])
  | .number x =>
    refine iff_of_false ?_ (by simp [Value.texts])
    rcases Number.jsonDouble_text x with hword | hnumber
    · exact h.unworded _ (List.mem_append_right ["null", "true", "false"] hword)
    · exact h.not_infix_number hnumber
  | .text s => simp [line, Value.texts]
  | .date d => simp [line, Value.texts]
  | .moment m => simp [line, Value.texts]
  | .list items =>
    have hwhole : (line (.list items)).toList =
        '[' :: ((String.intercalate ", " (itemLines items)).toList ++ [']']) := by
      simp [line]
    rw [hwhole, h.infix_enclosed (by decide) (by decide), h.infix_intercalate, Value.texts]
    exact h.infix_itemLines items
  | .object fields =>
    have hwhole : (line (.object fields)).toList =
        '\x7b' :: ((String.intercalate ", " (fieldLines fields)).toList ++ ['\x7d']) := by
      simp [line]
    rw [hwhole, h.infix_enclosed (by decide) (by decide), h.infix_intercalate, Value.texts]
    exact h.infix_fieldLines fields

theorem infix_itemLines (h : InTextsOnly fragment) (items : List Value) :
    (∃ part ∈ itemLines items, fragment <:+: smallLetters part.toList) ↔
      ∃ s ∈ Value.itemTexts items, fragment <:+: smallLetters (textOf s).toList := by
  match items with
  | [] => simp [itemLines, Value.itemTexts]
  | v :: rest =>
    rw [itemLines, Value.itemTexts, List.exists_mem_cons_iff, h.infix_line v,
      h.infix_itemLines rest]
    simp only [List.mem_append, or_and_right, exists_or]

theorem infix_fieldLines (h : InTextsOnly fragment) (fields : Entries Value) :
    (∃ part ∈ fieldLines fields, fragment <:+: smallLetters part.toList) ↔
      ∃ s ∈ Value.fieldTexts fields, fragment <:+: smallLetters (textOf s).toList := by
  match fields with
  | [] => simp [fieldLines, Value.fieldTexts]
  | (name, v) :: rest =>
    have hfield : (textOf name ++ ": " ++ line v).toList =
        (textOf name).toList ++ ':' :: ([] ++ ' ' :: (line v).toList) := by
      simp
    rw [fieldLines, Value.fieldTexts, List.exists_mem_cons_iff, List.exists_mem_cons_iff, hfield,
      h.infix_append_mark (by decide), h.infix_append_mark (by decide),
      or_iff_right h.not_infix_nil, h.infix_line v, h.infix_fieldLines rest, or_assoc]
    simp only [List.mem_append, or_and_right, exists_or]

end

end InTextsOnly

end Json

end SalesDesk
