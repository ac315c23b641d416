import SalesDesk.Proofs.Reply.Cuts
import SalesDesk.Proofs.Text.Fragments

/-!
What is left of a reply that leaves its subject. It is cut after a sentence that ends before the
place of the first marker. That place is counted in the small letters of the reply, where a capital
dotted i takes up two places; so a reply with such letters may be cut behind the marker.
-/
namespace SalesDesk.Reply

open Text

/-- No marker of another subject stands in the small letters of the text. -/
def StaysOnTopic (text : String) : Prop :=
  ∀ marker ∈ offTopicMarkers, hasFragment (lower text) marker = false

/-- A marker of another subject begins in the small letters of the text, no later than the place. -/
def LeavesBy (text : String) (place : Nat) : Prop :=
  ∃ marker ∈ offTopicMarkers, ∃ i, StandsAt marker.toList i (lower text).toList ∧ i ≤ place

section
variable {text marker : String} {index place : Nat}

/-- Where each marker first stands in the small letters of the text. -/
def markerHits (text : String) : List (Nat × String) :=
  offTopicMarkers.filterMap fun m => (indexOf? (lower text).toList m.toList).map fun i => (i, m)

theorem mem_markerHits : (index, marker) ∈ markerHits text ↔
    marker ∈ offTopicMarkers ∧ indexOf? (lower text).toList marker.toList = some index := by
  rw [markerHits, List.mem_filterMap]
  constructor
  · rintro ⟨m, hm, hindex⟩
    obtain ⟨i, hi, heq⟩ := Option.map_eq_some_iff.mp hindex
    cases heq
    exact ⟨hm, hi⟩
  · rintro ⟨hmarker, hindex⟩
    exact ⟨marker, hmarker, by rw [hindex]; rfl⟩

/-- Of hits that come in only before the best one so far, the last one to come in is the first. -/
theorem first_of_foldl {f : Option (Nat × String) → Nat × String → Option (Nat × String)}
    (hsome : ∀ b hit, f (some b) hit = if hit.1 < b.1 then some hit else some b)
    (b : Nat × String) (hits : List (Nat × String)) :
    ∃ found ∈ b :: hits, hits.foldl f (some b) = some found ∧
      ∀ hit ∈ b :: hits, found.1 ≤ hit.1 := by
  induction hits generalizing b with
  | nil => exact ⟨b, List.mem_cons_self, rfl, List.forall_mem_singleton.mpr (Nat.le_refl _)⟩
  | cons hit rest ih =>
    rw [List.foldl_cons, hsome]
    by_cases hlt : hit.1 < b.1
    · rw [if_pos hlt]
      obtain ⟨found, hmem, hfold, hfirst⟩ := ih hit
      have hhit := hfirst hit List.mem_cons_self
      exact ⟨found, List.mem_cons_of_mem b hmem, hfold,
        List.forall_mem_cons.mpr ⟨by omega, hfirst⟩⟩
    · rw [if_neg hlt]
      obtain ⟨found, hmem, hfold, hfirst⟩ := ih b
      obtain ⟨hb, hrest⟩ := List.forall_mem_cons.mp hfirst
      have hsub := (List.sublist_cons_self hit rest).cons_cons b
      exact ⟨found, hsub.subset hmem, hfold, List.forall_mem_cons.mpr ⟨hb,
        List.forall_mem_cons.mpr ⟨by omega, hrest⟩⟩⟩

/-- There is a first marker unless none stands in the text, and it is one of those that do. -/
theorem firstMarker?_cases (text : String) : firstMarker? text = none ∧ markerHits text = [] ∨
    ∃ found ∈ markerHits text, firstMarker? text = some found ∧
      ∀ hit ∈ markerHits text, found.1 ≤ hit.1 := by
  change (markerHits text).foldl _ none = none ∧ _ ∨
    ∃ found ∈ markerHits text, (markerHits text).foldl _ none = some found ∧ _
  cases markerHits text with
  | nil => exact .inl ⟨rfl, rfl⟩
  | cons hit rest => exact .inr (first_of_foldl (fun _ _ => rfl) hit rest)

/-- The first marker stands at its place, and no other one stands before it. -/
theorem leavesBy_iff (h : firstMarker? text = some (index, marker)) :
    LeavesBy text place ↔ index ≤ place := by
  rcases firstMarker?_cases text with ⟨hnone, -⟩ | ⟨found, hmem, hfound, hfirst⟩
  · rw [h] at hnone
    cases hnone
  rw [h] at hfound
  cases hfound
  constructor
  · rintro ⟨m, hm, i, hi, hplace⟩
    have hsome : (indexOf? (lower text).toList m.toList).isSome = true :=
      (isSome_findPlace? _ _ _ _).mpr (infix_iff_standsAt.mpr ⟨i, hi⟩)
    obtain ⟨j, hj⟩ := Option.isSome_iff_exists.mp hsome
    have hle : j ≤ i := by
      by_contra hlt
      exact (first_of_indexOf? hj).2 i (by omega) hi
    exact (hfirst (j, m) (mem_markerHits.mpr ⟨hm, hj⟩)).trans (hle.trans hplace)
  · intro hplace
    obtain ⟨hmarker, hindex⟩ := mem_markerHits.mp hmem
    exact ⟨marker, hmarker, index, (first_of_indexOf? hindex).1, hplace⟩

theorem markerHits_eq_nil_iff : markerHits text = [] ↔ StaysOnTopic text := by
  rw [markerHits, List.filterMap_eq_nil_iff]
  apply forall₂_congr
  intro m _
  rw [Option.map_eq_none_iff, hasFragment, Option.isSome_eq_false_iff, Option.isNone_iff_eq_none]

theorem firstMarker?_eq_none_iff : firstMarker? text = none ↔ StaysOnTopic text := by
  rw [← markerHits_eq_nil_iff]
  rcases firstMarker?_cases text with ⟨hnone, hnil⟩ | ⟨found, hmem, hfound, -⟩
  · exact iff_of_true hnone hnil
  · exact iff_of_false (by simp [hfound]) (List.ne_nil_of_mem hmem)

end

theorem smallLetters_blank {b : Char} (hb : isBlank b = true) : smallLetters [b] = [b] := by
  have hself := map_plainSigma_smallForm [] b []
  rw [caseless_isBlank.smallForm_of_mem hb] at hself
  have hsigma : b ≠ 'ς' := by
    rintro rfl
    exact absurd hb (by decide)
  rw [smallLetters, List.flatMap_singleton, ← hself, List.map_singleton, plainSigma, if_neg hsigma]

/-- A fragment between characters that are no blanks does not reach into the blanks at the ends. -/
theorem infix_smallLetters_stripChars {fragment : List Char}
    (hfirst : fragment.head?.any (!isBlank ·) = true)
    (hlast : fragment.getLast?.any (!isBlank ·) = true) (cs : List Char) :
    fragment <:+: smallLetters (stripChars cs) ↔ fragment <:+: smallLetters cs := by
  apply stripChars_iff (P := fun xs => fragment <:+: smallLetters xs)
  · intro b xs hb
    have hcons : smallLetters (b :: xs) = b :: smallLetters xs := by
      rw [← List.singleton_append, smallLetters_append, smallLetters_blank hb,
        List.singleton_append]
    rw [hcons, List.infix_cons_iff, or_iff_right]
    intro hhead
    cases fragment with
    | nil => cases hfirst
    | cons c rest =>
      rw [(List.cons_prefix_cons.mp hhead).1] at hfirst
      simp [hb] at hfirst
  · intro b xs hb
    rw [smallLetters_append, smallLetters_blank hb, List.infix_concat_iff, or_iff_right]
    rintro ⟨start, hsuffix⟩
    have hend := congrArg List.getLast? hsuffix
    rw [List.getLast?_append, List.getLast?_concat] at hend
    cases hend' : fragment.getLast? with
    | none => simp [hend'] at hlast
    | some c =>
      rw [hend', Option.some_or, Option.some.injEq] at hend
      rw [hend', hend] at hlast
      simp [hb] at hlast

theorem offTopicMarkers_proper : ∀ marker ∈ offTopicMarkers, Sigmaless marker.toList ∧
    marker.toList.head?.any (!isBlank ·) = true ∧
    marker.toList.getLast?.any (!isBlank ·) = true := by
  unfold Sigmaless
  decide

theorem staysOnTopic_iff {text : String} {kept : List Char}
    (h : text.toList = stripChars kept) :
    StaysOnTopic text ↔ ∀ marker ∈ offTopicMarkers, ¬marker.toList <:+: smallLetters kept := by
  apply forall₂_congr
  intro marker hmarker
  obtain ⟨hsigma, hfirst, hlast⟩ := offTopicMarkers_proper marker hmarker
  rw [← Bool.not_eq_true, hasFragment_iff, infix_lower hsigma, h,
    infix_smallLetters_stripChars hfirst hlast]

/-- The text is cut after a sentence: the last one that ends before all markers, if there is enough
text before its end. -/
structure CutsAfter (text : String) (start : List Char) (e : Char) (rest : List Char) : Prop where
  leaves : ¬StaysOnTopic text
  split : text.toList = start ++ e :: rest
  ends : endsSentence e = true
  enough : minKept < start.length
  before : ¬LeavesBy text start.length
  last : ∀ later, start.length < later → EndsAt text.toList later → LeavesBy text later

theorem cutOffTopic_cutsAfter (text : String) :
    cutOffTopic text = text ∧ (StaysOnTopic text ∨
      ∀ place, minKept < place → EndsAt text.toList place → LeavesBy text place) ∨
    ∃ start e rest, CutsAfter text start e rest ∧
      (cutOffTopic text).toList = stripChars (start ++ [e]) := by
  rcases cutOffTopic_cut text with ⟨hsame, hnone⟩ |
    ⟨index, marker, start, e, rest, hmarker, hsplit, he, henough, hbefore, hlast, hcut⟩
  · refine .inl ⟨hsame, ?_⟩
    cases hmarker : firstMarker? text with
    | none => exact .inl (firstMarker?_eq_none_iff.mp hmarker)
    | some found =>
      exact .inr fun place hplace hends =>
        (leavesBy_iff hmarker).mpr (hnone found.1 found.2 hmarker place hplace hends)
  · refine .inr ⟨start, e, rest, ⟨?_, hsplit, he, henough, ?_, ?_⟩, hcut⟩
    · rw [← firstMarker?_eq_none_iff, hmarker]
      exact Option.some_ne_none _
    · rw [leavesBy_iff hmarker]
      omega
    · exact fun later hlater hends => (leavesBy_iff hmarker).mpr (hlast later hlater hends)

/-- A reply stays as it is if it keeps to its subject, or if no sentence with enough text before its
end is over before the first marker; else it is cut after the last such sentence, be its end a mark
or the end of a line. What is kept is free of markers exactly if it ends, its capital dotted i's
being counted twice, before any marker does in the small letters of the reply. Without such letters
it always is. -/
theorem staysOnTopic_cutOffTopic_iff (text : String) :
    cutOffTopic text = text ∧ (StaysOnTopic text ∨
      ∀ place, minKept < place → EndsAt text.toList place → LeavesBy text place) ∨
    ∃ start e rest, CutsAfter text start e rest ∧
      (cutOffTopic text).toList = stripChars (start ++ [e]) ∧
      (e ≠ '\n' → (cutOffTopic text).toList.getLast? = some e) ∧
      (StaysOnTopic (cutOffTopic text) ↔
        ∀ marker ∈ offTopicMarkers, ∀ i, StandsAt marker.toList i (lower text).toList →
          start.length + 1 + start.count 'İ' < i + marker.length) ∧
      ('İ' ∉ start → StaysOnTopic (cutOffTopic text)) := by
  rcases cutOffTopic_cutsAfter text with h | ⟨start, e, rest, hcuts, hcut⟩
  · exact .inl h
  right
  have hends : ['.', '\n', '!', '?'].all (fun c => c != 'İ' && (c == '\n' || !isBlank c)) =
      true := by decide
  obtain ⟨hdotted, hblank⟩ : e ≠ 'İ' ∧ (e ≠ '\n' → isBlank e = false) := by
    have hend := List.all_eq_true.mp hends e (List.contains_iff_mem.mp hcuts.ends)
    simpa [or_iff_not_imp_left] using hend
  have hkept : (smallLetters (start ++ [e])).length = start.length + 1 + start.count 'İ' := by
    rw [length_smallLetters, List.length_append, List.length_singleton, List.count_append,
      List.count_singleton, beq_false_of_ne hdotted, if_neg Bool.false_ne_true]
    rfl
  have hsplit : smallLetters text.toList = smallLetters (start ++ [e]) ++ smallLetters rest := by
    rw [hcuts.split, ← smallLetters_append, List.append_assoc, List.singleton_append]
  -- a marker stands in what is kept if it ends there
  have hclean : StaysOnTopic (cutOffTopic text) ↔
      ∀ marker ∈ offTopicMarkers, ∀ i, StandsAt marker.toList i (lower text).toList →
        start.length + 1 + start.count 'İ' < i + marker.length := by
    rw [staysOnTopic_iff hcut]
    apply forall₂_congr
    intro m hm
    rw [infix_left_iff (smallLetters rest), ← hsplit, hkept]
    simp only [standsAt_lower (offTopicMarkers_proper m hm).1, String.length_toList, not_exists,
      not_and, Nat.not_le]
  refine ⟨start, e, rest, hcuts, hcut, fun hline => ?_, hclean, fun hnone => ?_⟩
  · obtain ⟨kept, hkept⟩ := stripChars_concat (hblank hline) start
    rw [hcut, hkept, List.getLast?_concat]
  · rw [hclean, List.count_eq_zero.mpr hnone]
    intro m hm i hi
    have hlater : start.length < i := Nat.lt_of_not_le fun hle => hcuts.before ⟨m, hm, i, hi, hle⟩
    have hlength : ∀ m ∈ offTopicMarkers, 0 < m.length := by decide
    have hpos := hlength m hm
    omega

/-- A reply with capital dotted i's before another subject. -/
def dottedReply : String :=
  "İZMİR İPLİK İTHALAT İHRACAT TİCARET ŞİRKETİ led April with strong orders. A study. It goes on."

/-- The reply is cut, but only behind the marker. -/
theorem dottedReply_leaves_subject : cutOffTopic dottedReply =
      "İZMİR İPLİK İTHALAT İHRACAT TİCARET ŞİRKETİ led April with strong orders. A study." ∧
    cutOffTopic dottedReply ≠ dottedReply ∧ ¬StaysOnTopic (cutOffTopic dottedReply) := by
  have hcut : cutOffTopic dottedReply =
      "İZMİR İPLİK İTHALAT İHRACAT TİCARET ŞİRKETİ led April with strong orders. A study." := by
    decide +kernel
  refine ⟨hcut, by rw [hcut]; decide, fun h => ?_⟩
  have hmarker := h "study" (by decide)
  rw [hcut] at hmarker
  exact absurd hmarker (by decide +kernel)

end SalesDesk.Reply
