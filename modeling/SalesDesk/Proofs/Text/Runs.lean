import SalesDesk.Text.Blank
import SalesDesk.Text.Search

/-! Runs of characters, and the places where they stand in a text. -/
namespace SalesDesk.Text

/-- The first piece of a split text begins it, and each other piece follows a separator. No piece
holds a separator. -/
theorem splitOn_spec (separates : Char → Bool) (cs : List Char) :
    ∃ piece pieces, splitOn separates cs = piece :: pieces ∧ piece <+: cs ∧
      (∀ c ∈ piece, separates c = false) ∧
      ∀ w ∈ pieces, (∀ c ∈ w, separates c = false) ∧
        ∃ before c after, cs = before ++ c :: (w ++ after) ∧ separates c = true := by
  induction cs with
  | nil => exact ⟨[], [], rfl, List.prefix_rfl, nofun, nofun⟩
  | cons c rest ih =>
    obtain ⟨piece, pieces, hsplit, ⟨after, hafter⟩, hpiece, hpieces⟩ := ih
    -- The pieces after the first one stand behind one character more.
    have hpieces' : ∀ w ∈ pieces, (∀ c ∈ w, separates c = false) ∧
        ∃ before d after, c :: rest = before ++ d :: (w ++ after) ∧ separates d = true := by
      intro w hw
      obtain ⟨hclear, before, d, after, rfl, hd⟩ := hpieces w hw
      exact ⟨hclear, c :: before, d, after, rfl, hd⟩
    cases hc : separates c with
    | true =>
      refine ⟨[], piece :: pieces, by simp [splitOn, hsplit, hc], List.nil_prefix, nofun, ?_⟩
      intro w hw
      rcases List.mem_cons.mp hw with rfl | hw
      · exact ⟨hpiece, [], c, after, by rw [hafter]; rfl, hc⟩
      · exact hpieces' w hw
    | false =>
      refine ⟨c :: piece, pieces, by simp [splitOn, hsplit, hc], ?_, ?_, hpieces'⟩
      · exact ⟨after, by rw [← hafter]; rfl⟩
      · simpa [hc] using hpiece

/-- All characters of a run belong to its class, and a run is not empty. -/
theorem mem_runs {belongs : Char → Bool} {cs w : List Char} (h : w ∈ runs belongs cs) :
    w ≠ [] ∧ ∀ c ∈ w, belongs c = true := by
  obtain ⟨hw, hne⟩ := List.mem_filter.mp h
  obtain ⟨piece, pieces, hsplit, -, hpiece, hpieces⟩ := splitOn_spec (!belongs ·) cs
  rw [hsplit] at hw
  refine ⟨by simpa using hne, ?_⟩
  rcases List.mem_cons.mp hw with rfl | hw
  · simpa using hpiece
  · simpa using (hpieces w hw).1

theorem anyPlace_of_here {test : Option Char → List Char → Bool} {before : Option Char}
    {cs : List Char} (h : test before cs = true) : anyPlace test before cs = true := by
  cases cs with
  | nil => exact h
  | cons c rest => simp [anyPlace, h]

theorem anyPlace_of_after {test : Option Char → List Char → Bool} {c : Char} {after : List Char}
    (h : test (some c) after = true) (before : Option Char) (cs : List Char) :
    anyPlace test before (cs ++ c :: after) = true := by
  induction cs generalizing before with
  | nil => simp [anyPlace, anyPlace_of_here h]
  | cons d rest ih => simp [anyPlace, ih]

private theorem keywordHere_append {w after : List Char} {before : Option Char}
    (hne : w ≠ []) (hw : ∀ c ∈ w, isWord c = true) (hbefore : wordAt before = false) :
    keywordHere w before (w ++ after) = true := by
  cases w with
  | nil => exact absurd rfl hne
  | cons c rest =>
    have hc : wordAt (some c) = true := hw c List.mem_cons_self
    rw [keywordHere, List.cons_append, List.head?_cons, edge, hbefore, hc]
    simp

/-- A text mentions each of its words. -/
theorem mentions_of_mem_runs {text : String} {w : List Char} (h : w ∈ runs isWord text.toList) :
    mentions text (String.ofList w) = true := by
  obtain ⟨hne, hword⟩ := mem_runs h
  have hmem := (List.mem_filter.mp h).1
  obtain ⟨piece, pieces, hsplit, ⟨after, hafter⟩, -, hpieces⟩ :=
    splitOn_spec (!isWord ·) text.toList
  rw [hsplit] at hmem
  rw [mentions, String.toList_ofList]
  rcases List.mem_cons.mp hmem with rfl | hmem
  · rw [← hafter]
    exact anyPlace_of_here (keywordHere_append hne hword rfl)
  · obtain ⟨-, before, c, after, hplace, hc⟩ := hpieces w hmem
    rw [hplace]
    refine anyPlace_of_after (keywordHere_append hne hword ?_) none before
    simpa [wordAt] using hc

end SalesDesk.Text
