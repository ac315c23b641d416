import SalesDesk.Proofs.Text.Runs
import SalesDesk.Text.Casing

/-! Texts put together with blanks: their runs, their small letters and the keywords in them. -/
namespace SalesDesk.Text

section
variable {belongs : Char → Bool} {c : Char} {cs : List Char}

/-- The two sides of a separator are split on their own. -/
theorem splitOn_append_cons {separates : Char → Bool} (hc : separates c = true)
    (before after : List Char) :
    splitOn separates (before ++ c :: after) =
      splitOn separates before ++ splitOn separates after := by
  induction before with
  | nil =>
    obtain ⟨piece, pieces, hsplit, -⟩ := splitOn_spec separates after
    simp [splitOn, hsplit, hc]
  | cons d rest ih =>
    obtain ⟨piece, pieces, hsplit, -⟩ := splitOn_spec separates rest
    rw [List.cons_append, splitOn, ih, splitOn, hsplit, List.cons_append]
    by_cases hd : separates d = true
    · simp [hd]
    · simp [hd]

theorem splitOn_eq_singleton {separates : Char → Bool} (h : cs.any separates = false) :
    splitOn separates cs = [cs] := by
  induction cs with
  | nil => rfl
  | cons c rest ih =>
    obtain ⟨hc, hrest⟩ := Bool.or_eq_false_iff.mp h
    simp [splitOn, ih hrest, hc]

theorem runs_append_cons (hc : belongs c = false) (before after : List Char) :
    runs belongs (before ++ c :: after) = runs belongs before ++ runs belongs after := by
  have hseparates : (!belongs c) = true := by simp [hc]
  rw [runs, splitOn_append_cons hseparates, List.filter_append]
  rfl

theorem runs_eq_singleton (hne : cs ≠ []) (h : cs.all belongs = true) :
    runs belongs cs = [cs] := by
  have hnone : cs.any (!belongs ·) = false := by simpa using h
  rw [runs, splitOn_eq_singleton hnone]
  simp [hne]

theorem runs_eq_nil (h : cs.any belongs = false) : runs belongs cs = [] := by
  induction cs with
  | nil => rfl
  | cons c rest ih =>
    obtain ⟨hc, hrest⟩ := Bool.or_eq_false_iff.mp h
    have hcons := runs_append_cons hc [] rest
    rw [List.nil_append] at hcons
    rw [hcons, ih hrest]
    rfl

end

section
variable {text keyword : String}

/-- A text has a place that passes a test only if the test holds of one of its ends. -/
theorem exists_of_anyPlace {test : Option Char → List Char → Bool} {before : Option Char}
    {cs : List Char} (h : anyPlace test before cs = true) :
    ∃ b rest, rest <:+ cs ∧ test b rest = true := by
  induction cs generalizing before with
  | nil => exact ⟨before, [], List.suffix_rfl, h⟩
  | cons c cs ih =>
    rcases Bool.or_eq_true_iff.mp h with here | later
    · exact ⟨before, c :: cs, List.suffix_rfl, here⟩
    · obtain ⟨b, rest, hrest, htest⟩ := ih later
      exact ⟨b, rest, hrest.trans (List.suffix_cons c cs), htest⟩

theorem mentions_of_absent {c : Char} (hc : c ∈ keyword.toList) (habsent : c ∉ text.toList) :
    mentions text keyword = false := by
  cases hmention : mentions text keyword with
  | false => rfl
  | true =>
    obtain ⟨b, rest, hrest, htest⟩ := exists_of_anyPlace hmention
    have hbegins := List.isPrefixOf_iff_prefix.mp (Bool.and_eq_true_iff.mp htest).2
    exact absurd (hrest.subset (hbegins.subset hc)) habsent

theorem mentionsAny_of_absent {keywords : List String}
    (h : ∀ keyword ∈ keywords, ∃ c ∈ keyword.toList, c ∉ text.toList) :
    mentionsAny text keywords = false := by
  apply List.any_eq_false.mpr
  intro keyword hkeyword
  obtain ⟨c, hc, habsent⟩ := h keyword hkeyword
  rw [mentions_of_absent hc habsent]
  exact Bool.false_ne_true

theorem anyPlace_keywordHere_blank (keyword cs : List Char) :
    anyPlace (keywordHere keyword) (some ' ') cs = anyPlace (keywordHere keyword) none cs := by
  have hedge : ∀ after, edge (some ' ') after = edge none after := fun _ => rfl
  cases cs <;> simp only [anyPlace, keywordHere, hedge]

/-- Characters that the keyword does not begin with come to nothing. -/
theorem anyPlace_keywordHere_append {k : Char} {ks start : List Char} (h : k ∉ start)
    (before : Option Char) (cs : List Char) :
    anyPlace (keywordHere (k :: ks)) before (start ++ cs) =
      anyPlace (keywordHere (k :: ks)) (start.getLast?.or before) cs := by
  induction start generalizing before with
  | nil => rfl
  | cons c rest ih =>
    obtain ⟨hc, hrest⟩ := not_or.mp (mt List.mem_cons.mpr h)
    have hlast : (c :: rest).getLast?.or before = rest.getLast?.or (some c) := by
      cases rest <;> simp [List.getLast?_cons]
    have hhere : keywordHere (k :: ks) before (c :: (rest ++ cs)) = false := by
      simp [keywordHere, List.isPrefixOf_cons_cons, hc]
    rw [hlast, ← ih hrest, List.cons_append, anyPlace, hhere, Bool.false_or]

/-- Words without the first letter of a keyword do not change whether it is mentioned after them. -/
theorem mentions_append {start : String} (hlast : start.toList.getLast? = some ' ')
    (hfirst : keyword.toList.head?.any (!start.toList.contains ·) = true) :
    mentions (start ++ text) keyword = mentions text keyword := by
  cases hkeyword : keyword.toList with
  | nil => simp [hkeyword] at hfirst
  | cons k ks =>
    have habsent : k ∉ start.toList := by simpa [hkeyword] using hfirst
    rw [mentions, mentions, String.toList_append, hkeyword, anyPlace_keywordHere_append habsent,
      hlast]
    exact anyPlace_keywordHere_blank _ _

end

def isPlain (c : Char) : Bool := c.toNat < 128 && c.toLower == c

theorem lowerFrom_append {start : List Char} (h : ∀ c ∈ start, isPlain c = true)
    (before cs : List Char) :
    lowerFrom before (start ++ cs) = start ++ lowerFrom (start.reverse ++ before) cs := by
  induction start generalizing before with
  | nil => rfl
  | cons c rest ih =>
    obtain ⟨hc, hrest⟩ := List.forall_mem_cons.mp h
    obtain ⟨hascii, hlower⟩ := Bool.and_eq_true_iff.mp hc
    -- Sigma alone has a small form that depends on the letters around it.
    have hsigma : c ≠ 'Σ' := by
      rintro rfl
      exact absurd hascii (by decide)
    have hself : lowerChar c = [c] := by
      rw [lowerChar, if_pos (of_decide_eq_true hascii), eq_of_beq hlower]
    rw [List.cons_append, lowerFrom, ih hrest]
    simp [hsigma, hself]

theorem nextIsCased_append_blank (before earlier : List Char) :
    nextIsCased (before ++ ' ' :: earlier) = nextIsCased before := by
  induction before with
  | nil => rfl
  | cons c rest ih =>
    simp only [nextIsCased, List.cons_append, List.dropWhile_cons] at ih ⊢
    by_cases hc : isCaseIgnorable c = true
    · simpa only [hc, if_true] using ih
    · simp [hc]

theorem lowerFrom_append_blank (before earlier cs : List Char) :
    lowerFrom (before ++ ' ' :: earlier) cs = lowerFrom before cs := by
  induction cs generalizing before with
  | nil => rfl
  | cons c rest ih =>
    have hrest := ih (c :: before)
    rw [List.cons_append] at hrest
    simp only [lowerFrom, hrest, lowerSigma, nextIsCased_append_blank]

theorem lower_eq_self {text : String} (h : text.toList.all isPlain = true) :
    lower text = text := by
  have hall := lowerFrom_append (List.all_eq_true.mp h) [] []
  rw [List.append_nil] at hall
  rw [lower, hall, lowerFrom, List.append_nil, String.ofList_toList]

/-- After a blank, small letters are made as at the start of a text. -/
theorem lower_append {start : String} (h : start.toList.all isPlain = true)
    (hlast : start.toList.getLast? = some ' ') (text : String) :
    lower (start ++ text) = start ++ lower text := by
  obtain ⟨words, hwords⟩ := List.getLast?_eq_some_iff.mp hlast
  have hreverse : start.toList.reverse ++ [] = [] ++ ' ' :: words.reverse := by simp [hwords]
  rw [lower, String.toList_append, lowerFrom_append (List.all_eq_true.mp h), hreverse,
    lowerFrom_append_blank, String.ofList_append, String.ofList_toList, lower]

theorem lowerChar_ne_nil (c : Char) : lowerChar c ≠ [] := by
  have hspecials : ∀ special ∈ lowerSpecials, special.2 ≠ [] := by decide
  unfold lowerChar changed
  split
  · exact List.cons_ne_nil _ _
  · split
    · rename_i codes hcodes
      obtain ⟨before, after, htable, -⟩ := List.lookup_eq_some_iff.mp hcodes
      simpa using hspecials (c.toNat, codes) (by simp [htable])
    · exact List.cons_ne_nil _ _

theorem lower_ne_empty {text : String} (h : text ≠ "") : lower text ≠ "" := by
  intro hlower
  have hnil : lowerFrom [] text.toList = [] := by
    rw [← String.toList_ofList (l := lowerFrom [] text.toList)]
    exact congrArg String.toList hlower
  cases htext : text.toList with
  | nil => exact h (String.toList_inj.mp htext)
  | cons c rest =>
    rw [htext, lowerFrom] at hnil
    have hfirst := (List.append_eq_nil_iff.mp hnil).1
    split at hfirst
    · exact List.cons_ne_nil _ _ hfirst
    · exact lowerChar_ne_nil c hfirst

end SalesDesk.Text
