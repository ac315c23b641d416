import SalesDesk.Proofs.Reply.Cuts

/-!
Replies of so many words. A text that is put together from words with blanks between them has these
words and no others, so that a reply that is cut has the first words of what it was.
-/
namespace SalesDesk

namespace Text

/-- Nothing blank stands in the text, and it is not empty. -/
def IsUnbroken (w : String) : Prop := w.toList ≠ [] ∧ ∀ c ∈ w.toList, isBlank c = false

theorem words_eq_runs (s : String) : words s = (runs (!isBlank ·) s.toList).map String.ofList := by
  have hseparates : (fun c => !!isBlank c) = isBlank := funext fun _ => Bool.not_not _
  rw [words, runs, hseparates]

theorem isUnbroken_of_mem_words {s w : String} (h : w ∈ words s) : IsUnbroken w := by
  rw [words_eq_runs] at h
  obtain ⟨run, hrun, rfl⟩ := List.mem_map.mp h
  obtain ⟨hne, hclear⟩ := mem_runs hrun
  refine ⟨by rwa [String.toList_ofList], fun c hc => ?_⟩
  rw [String.toList_ofList] at hc
  simpa using hclear c hc

theorem IsUnbroken.append {w : String} (h : IsUnbroken w) {ending : String}
    (hending : ending.toList.any isBlank = false) : IsUnbroken (w ++ ending) := by
  obtain ⟨hne, hclear⟩ := h
  have hrest : ∀ c ∈ ending.toList, isBlank c = false := fun c hc =>
    Bool.eq_false_iff.mpr (List.any_eq_false.mp hending c hc)
  rw [IsUnbroken, String.toList_append]
  exact ⟨List.append_ne_nil_of_left_ne_nil hne _, List.forall_mem_append.mpr ⟨hclear, hrest⟩⟩

/-- Words with blanks between them are read back. -/
theorem words_intercalate {ws : List String} (h : ∀ w ∈ ws, IsUnbroken w) :
    words (String.intercalate " " ws) = ws := by
  rw [words_eq_runs, (apartAtBlanks_runs fun hb => by rw [hb]; rfl).intercalate]
  induction ws with
  | nil => rfl
  | cons w rest ih =>
    obtain ⟨⟨hne, hclear⟩, hrest⟩ := List.forall_mem_cons.mp h
    have hall : w.toList.all (!isBlank ·) = true :=
      List.all_eq_true.mpr fun c hc => by rw [hclear c hc]; rfl
    rw [List.flatMap_cons, List.map_append, ih hrest, runs_eq_singleton hne hall,
      List.map_singleton, String.ofList_toList, List.singleton_append]

theorem intercalate_concat_append (separator ending last : String) (first : List String) :
    String.intercalate separator (first ++ [last]) ++ ending =
      String.intercalate separator (first ++ [last ++ ending]) := by
  induction first with
  | nil => rw [List.nil_append, List.nil_append, String.intercalate_singleton,
      String.intercalate_singleton]
  | cons part rest ih =>
    have hne (w : String) : rest ++ [w] ≠ [] := List.concat_ne_nil w rest
    rw [List.cons_append, List.cons_append, String.intercalate_cons_of_ne_nil (hne _),
      String.intercalate_cons_of_ne_nil (hne _), String.append_assoc, ih]

end Text

namespace Reply

open Text

theorem capWords_of_le {text : String} {limit : Int} (h : (words text).length ≤ limit) :
    capWords text limit = text := by
  unfold capWords
  exact if_pos h

/-- A reply with too many words is put together from the first ones. The dots for the others belong
to the last word that is left. -/
theorem capWords_of_lt {text : String} {limit : Int} (hlimit : 1 ≤ limit)
    (h : limit < (words text).length) :
    ∃ first last rest, words text = first ++ last :: rest ∧ rest ≠ [] ∧
      (first.length + 1 : Int) = limit ∧
      capWords text limit = String.intercalate " " (first ++ [last ++ "..."]) := by
  have hcut : upTo limit (words text) = (words text).take limit.toNat := if_pos (by omega)
  have htext : capWords text limit =
      String.intercalate " " ((words text).take limit.toNat) ++ "..." := by
    rw [← hcut]
    exact if_neg (Int.not_le.mpr h)
  rw [htext]
  generalize words text = ws at *
  obtain ⟨n, hn⟩ : ∃ n : ℕ, limit.toNat = n + 1 := ⟨limit.toNat - 1, by omega⟩
  have hn' : n < ws.length := by omega
  have hsplit : ws.take (n + 1) = ws.take n ++ [ws[n]] := (List.take_append_getElem hn').symm
  refine ⟨ws.take n, ws[n], ws.drop (n + 1), ?_, ?_, ?_, ?_⟩
  · rw [← List.drop_eq_getElem_cons hn', List.take_append_drop]
  · rw [ne_eq, List.drop_eq_nil_iff]
    omega
  · rw [List.length_take]
    omega
  · rw [hn, hsplit, intercalate_concat_append]

/-- The words of a cut reply: the first ones of the whole reply, the last of them with dots. -/
theorem words_capWords_of_lt {text : String} {limit : Int} (hlimit : 1 ≤ limit)
    (h : limit < (words text).length) :
    ∃ first last rest, words text = first ++ last :: rest ∧ rest ≠ [] ∧
      (first.length + 1 : Int) = limit ∧
      words (capWords text limit) = first ++ [last ++ "..."] := by
  obtain ⟨first, last, rest, hwords, hrest, hlength, hcapped⟩ := capWords_of_lt hlimit h
  refine ⟨first, last, rest, hwords, hrest, hlength, ?_⟩
  have hunbroken : ∀ w ∈ first ++ last :: rest, IsUnbroken w := fun w hw =>
    isUnbroken_of_mem_words (hwords ▸ hw)
  obtain ⟨hfirst, hlast⟩ := List.forall_mem_append.mp hunbroken
  have hdotted : IsUnbroken (last ++ "...") := (hlast last List.mem_cons_self).append (by decide)
  rw [hcapped]
  exact words_intercalate
    (List.forall_mem_append.mpr ⟨hfirst, List.forall_mem_singleton.mpr hdotted⟩)

theorem length_words_capWords_le (text : String) {limit : Int} (hlimit : 1 ≤ limit) :
    (words (capWords text limit)).length ≤ limit := by
  by_cases h : (words text).length ≤ limit
  · rwa [capWords_of_le h]
  · obtain ⟨first, last, rest, -, -, hlength, hcapped⟩ :=
      words_capWords_of_lt hlimit (Int.not_le.mp h)
    rw [hcapped, List.length_append, List.length_singleton]
    exact Int.le_of_eq hlength

/-- A reply is left as it is exactly if it has no more words than the limit says. Else the first so
many words of it are left, the last of them with dots behind it. There are never more words than
that, so that a second cut changes nothing; and a tidied reply keeps the limit as well. -/
theorem capWords_keeps_limit (text : String) {limit : Int} (hlimit : 1 ≤ limit) :
    (words (capWords text limit)).length ≤ limit ∧
      (capWords text limit = text ↔ (words text).length ≤ limit) ∧
      (limit < (words text).length → ∃ first last rest,
        words text = first ++ last :: rest ∧ rest ≠ [] ∧ (first.length + 1 : Int) = limit ∧
        words (capWords text limit) = first ++ [last ++ "..."]) ∧
      capWords (capWords text limit) limit = capWords text limit ∧
      ∀ symbol, (words (tidy text symbol limit)).length ≤ limit := by
  have hshort := length_words_capWords_le text hlimit
  refine ⟨hshort, ⟨fun hsame => ?_, capWords_of_le⟩, words_capWords_of_lt hlimit,
    capWords_of_le hshort, fun symbol => length_words_capWords_le _ hlimit⟩
  rwa [hsame] at hshort

theorem capWords_keeps_limit_two :
    (1 : Int) ≤ 2 ∧ (2 : Int) < (words "up \t 3.5\n in May").length ∧
      ((words (capWords "up \t 3.5\n in May" 2)).length : Int) ≤ 2 ∧
      (∃ first last rest, words "up \t 3.5\n in May" = first ++ last :: rest ∧ rest ≠ [] ∧
        (first.length + 1 : Int) = 2 ∧
        words (capWords "up \t 3.5\n in May" 2) = first ++ [last ++ "..."]) ∧
      capWords (capWords "up \t 3.5\n in May" 2) 2 = capWords "up \t 3.5\n in May" 2 ∧
      ((words (tidy "up \t 3.5\n in May" "$" 2)).length : Int) ≤ 2 := by
  have hlimit : (1 : Int) ≤ 2 := by decide
  have hlong : (2 : Int) < (words "up \t 3.5\n in May").length := by decide
  obtain ⟨hshort, -, hfirst, htwice, htidy⟩ := capWords_keeps_limit "up \t 3.5\n in May" hlimit
  exact ⟨hlimit, hlong, hshort, hfirst hlong, htwice, htidy "$"⟩

example : capWords "up \t 3.5\n in May" 2 = "up 3.5..." := by decide

end Reply

end SalesDesk
