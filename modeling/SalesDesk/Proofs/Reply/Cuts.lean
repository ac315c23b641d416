import SalesDesk.Proofs.Text.Joined
import SalesDesk.Proofs.Text.Stripped
import SalesDesk.Reply.Cuts

/-!
What is kept of a reply that is cut short: the text up to the end of a sentence, and the first words
of it. Whatever is read off a text on both sides of each blank is read off what is kept as well.
-/
namespace SalesDesk

namespace Text

/-- What is read off a text is read off the parts on both sides of any blank. -/
structure ApartAtBlanks {β : Type} (F : List Char → List β) : Prop where
  nil : F [] = []
  append (before : List Char) {b : Char} (after : List Char) (hb : isBlank b = true) :
    F (before ++ b :: after) = F before ++ F after

namespace ApartAtBlanks

variable {β : Type} {F : List Char → List β}

theorem stripChars (h : ApartAtBlanks F) (cs : List Char) : F (stripChars cs) = F cs := by
  refine (stripChars_iff (P := fun xs => F xs = F cs) ?_ ?_ cs).mpr rfl
  · intro b xs hb
    rw [← List.nil_append (b :: xs), h.append [] xs hb, h.nil, List.nil_append]
  · intro b xs hb
    rw [h.append xs [] hb, h.nil, List.append_nil]

theorem splitOn (h : ApartAtBlanks F) (cs : List Char) :
    (splitOn isBlank cs).flatMap F = F cs := by
  induction hn : cs.length using Nat.strongRecOn generalizing cs with
  | _ n ih =>
    cases hblank : cs.any isBlank with
    | false => rw [splitOn_eq_singleton hblank, List.flatMap_singleton]
    | true =>
      obtain ⟨b, hmem, hb⟩ := List.any_eq_true.mp hblank
      obtain ⟨before, after, rfl⟩ := List.append_of_mem hmem
      rw [List.length_append, List.length_cons] at hn
      rw [splitOn_append_cons hb, List.flatMap_append, ih _ (by omega) before rfl,
        ih _ (by omega) after rfl, h.append before after hb]

theorem words (h : ApartAtBlanks F) (text : String) :
    (words text).flatMap (fun w => F w.toList) = F text.toList := by
  rw [← h.splitOn, Text.words, List.flatMap_map]
  induction Text.splitOn isBlank text.toList with
  | nil => rfl
  | cons piece pieces ih =>
    rw [List.flatMap_cons, ← ih]
    cases piece with
    | nil => rw [List.filter_cons_of_neg (by simp), h.nil, List.nil_append]
    | cons c rest =>
      rw [List.filter_cons_of_pos (by simp), List.flatMap_cons, String.toList_ofList]

theorem intercalate (h : ApartAtBlanks F) (ws : List String) :
    F (String.intercalate " " ws).toList = ws.flatMap fun w => F w.toList := by
  induction ws with
  | nil => exact h.nil
  | cons w rest ih =>
    by_cases hrest : rest = []
    · rw [hrest, String.intercalate_singleton, List.flatMap_singleton]
    · have hjoined : (String.intercalate " " (w :: rest)).toList =
          w.toList ++ ' ' :: (String.intercalate " " rest).toList := by
        rw [String.intercalate_cons_of_ne_nil hrest]
        simp
      rw [hjoined, h.append _ _ (by decide), ih, List.flatMap_cons]

end ApartAtBlanks

theorem apartAtBlanks_runs {p : Char → Bool} (h : ∀ {c}, isBlank c = true → p c = false) :
    ApartAtBlanks (runs p) where
  nil := runs_eq_nil rfl
  append before _ after hb := runs_append_cons (h hb) before after

end Text

namespace Reply

open Text

theorem upTo_prefix {β : Type} (limit : Int) (xs : List β) : upTo limit xs <+: xs := by
  unfold upTo
  split <;> exact List.take_prefix _ _

/-- A reply with too many words keeps the first ones of them. -/
theorem capWords_cases (text : String) (limit : Int) : capWords text limit = text ∨
    ∃ start, capWords text limit = start ++ "..." ∧
      ∀ {β : Type} {F : List Char → List β}, ApartAtBlanks F →
        F start.toList <+: F text.toList := by
  unfold capWords
  dsimp only
  split
  · exact .inl rfl
  · refine .inr ⟨_, rfl, fun h => ?_⟩
    obtain ⟨others, hothers⟩ := upTo_prefix limit (words text)
    rw [h.intercalate, ← h.words text, ← hothers, List.flatMap_append, hothers]
    exact List.prefix_append _ _

/-- A sentence ends at this place of the text. -/
def EndsAt (cs : List Char) (place : Nat) : Prop := cs[place]?.any endsSentence = true

theorem endsAt_iff {cs : List Char} {place : Nat} :
    EndsAt cs place ↔ ∃ h : place < cs.length, endsSentence cs[place] = true := by
  unfold EndsAt
  by_cases hplace : place < cs.length <;> simp [hplace]

theorem endsAt_take_iff {cs : List Char} {index place : Nat} :
    EndsAt (cs.take index) place ↔ place < index ∧ EndsAt cs place := by
  unfold EndsAt
  rw [List.getElem?_take]
  by_cases h : place < index <;> simp [h]

/-- The last end of a sentence is the last place at which one ends. -/
theorem endsAt_of_lastBoundary? {cs : List Char} {i : Nat} (h : lastBoundary? cs = some i) :
    EndsAt cs i ∧ ∀ later, i < later → ¬EndsAt cs later := by
  obtain ⟨j, hj, rfl⟩ := Option.map_eq_some_iff.mp h
  obtain ⟨hlt, he, hfirst⟩ := List.findIdx?_eq_some_iff_getElem.mp hj
  rw [List.length_reverse] at hlt
  rw [List.getElem_reverse] at he
  refine ⟨endsAt_iff.mpr ⟨by omega, he⟩, fun later hlater hends => ?_⟩
  obtain ⟨hlength, hend⟩ := endsAt_iff.mp hends
  have hplace : cs.length - 1 - (cs.length - 1 - later) = later := by omega
  have hnot := hfirst (cs.length - 1 - later) (by omega)
  simp only [List.getElem_reverse, hplace] at hnot
  exact hnot hend

theorem not_endsAt_of_lastBoundary? {cs : List Char} (h : lastBoundary? cs = none) (place : Nat) :
    ¬EndsAt cs place := by
  have hnone := List.findIdx?_eq_none_iff.mp (Option.map_eq_none_iff.mp h)
  intro hends
  obtain ⟨hplace, hend⟩ := endsAt_iff.mp hends
  rw [hnone _ (List.mem_reverse.mpr (List.getElem_mem hplace))] at hend
  cases hend

/-- Either no sentence is over before a place, or there is a last one that is. -/
theorem lastBoundary?_take_cases (cs : List Char) (index : Nat) :
    lastBoundary? (cs.take index) = none ∧ (∀ place, EndsAt cs place → index ≤ place) ∨
    ∃ start e rest, cs = start ++ e :: rest ∧ endsSentence e = true ∧ start.length < index ∧
      lastBoundary? (cs.take index) = some start.length ∧
      ∀ later, start.length < later → EndsAt cs later → index ≤ later := by
  have hbehind : ∀ {place}, ¬EndsAt (cs.take index) place → EndsAt cs place → index ≤ place := by
    intro place hnot hends
    rw [endsAt_take_iff, not_and'] at hnot
    exact Nat.le_of_not_lt (hnot hends)
  cases hboundary : lastBoundary? (cs.take index) with
  | none => exact .inl ⟨rfl, fun place => hbehind (not_endsAt_of_lastBoundary? hboundary place)⟩
  | some boundary =>
    obtain ⟨hends, hlast⟩ := endsAt_of_lastBoundary? hboundary
    obtain ⟨hbefore, hend⟩ := endsAt_take_iff.mp hends
    obtain ⟨hlength, he⟩ := endsAt_iff.mp hend
    have hstart : (cs.take boundary).length = boundary := by
      rw [List.length_take]
      omega
    refine .inr ⟨cs.take boundary, cs[boundary], cs.drop (boundary + 1), ?_, he, ?_⟩
    · rw [List.getElem_cons_drop, List.take_append_drop]
    · rw [hstart]
      exact ⟨hbefore, rfl, fun later hlater => hbehind (hlast later hlater)⟩

/-- A reply that leaves its subject is cut after the last end of a sentence before the place of the
first marker, if enough stands before it. -/
theorem cutOffTopic_cut (text : String) :
    cutOffTopic text = text ∧ (∀ index marker, firstMarker? text = some (index, marker) →
      ∀ place, minKept < place → EndsAt text.toList place → index ≤ place) ∨
    ∃ index marker start e rest, firstMarker? text = some (index, marker) ∧
      text.toList = start ++ e :: rest ∧ endsSentence e = true ∧
      minKept < start.length ∧ start.length < index ∧
      (∀ later, start.length < later → EndsAt text.toList later → index ≤ later) ∧
      (cutOffTopic text).toList = stripChars (start ++ [e]) := by
  unfold cutOffTopic
  cases firstMarker? text with
  | none => exact .inl ⟨rfl, nofun⟩
  | some found =>
    obtain ⟨index, marker⟩ := found
    dsimp only
    rcases lastBoundary?_take_cases text.toList index with
      ⟨hnone, hbehind⟩ | ⟨start, e, rest, htext, he, hbefore, hboundary, hbehind⟩
    · left
      rw [hnone]
      refine ⟨rfl, fun index' marker' hsame place _ => ?_⟩
      cases hsame
      exact hbehind place
    · rw [hboundary]
      dsimp only
      by_cases henough : minKept < start.length
      · right
        refine ⟨index, marker, start, e, rest, rfl, htext, he, henough, hbefore, hbehind, ?_⟩
        have hkept : (start ++ e :: rest).take (start.length + 1) = start ++ [e] := by
          rw [List.take_length_add_append]
          rfl
        rw [if_pos henough, String.toList_ofList, List.take_take, Nat.min_eq_left hbefore, htext,
          hkept]
      · left
        rw [if_neg henough]
        refine ⟨rfl, fun index' marker' hsame place hplace => ?_⟩
        cases hsame
        exact hbehind place (by omega)

/-- A reply that is cut is cut after the end of a sentence. -/
theorem cutOffTopic_cases (text : String) : cutOffTopic text = text ∨
    ∃ start e rest, text.toList = start ++ e :: rest ∧ endsSentence e = true ∧
      (cutOffTopic text).toList = stripChars (start ++ [e]) := by
  rcases cutOffTopic_cut text with ⟨h, -⟩ | ⟨_, _, start, e, rest, -, htext, he, -, -, -, hcut⟩
  · exact .inl h
  · exact .inr ⟨start, e, rest, htext, he, hcut⟩

end Reply

end SalesDesk
