import SalesDesk.Proofs.Text.Joined
import SalesDesk.Query.Reading

/-! The names that a question names as a whole, and the reading of a question by its parts. -/
namespace SalesDesk.Query

section
variable {names : List String} {name lower : String}

theorem mem_of_longest? (h : longest? names = some name) : name ∈ names := by
  fun_induction longest? names with
  | case1 => cases h
  | case2 first rest hrest ih =>
    cases h
    exact List.mem_cons_self
  | case3 first rest other hother hlength ih =>
    exact List.mem_cons_of_mem _ (ih (hother.trans h))
  | case4 first rest other hother hlength ih =>
    cases h
    exact List.mem_cons_self

theorem longest?_eq_none : longest? names = none ↔ names = [] := by
  cases names with
  | nil => exact iff_of_true rfl rfl
  | cons first rest =>
    apply iff_of_false _ (List.cons_ne_nil _ _)
    rw [longest?]
    split
    · exact nofun
    · split <;> exact nofun

theorem length_le_of_longest? (h : longest? names = some name) :
    ∀ other ∈ names, other.length ≤ name.length := by
  fun_induction longest? names generalizing name with
  | case1 => exact nofun
  | case2 first rest hrest ih =>
    cases h
    rw [longest?_eq_none.mp hrest]
    simp
  | case3 first rest other hother hlength ih =>
    have hle := ih (hother.trans h)
    obtain rfl : other = name := Option.some.inj h
    exact List.forall_mem_cons.mpr ⟨Nat.le_of_lt hlength, hle⟩
  | case4 first rest other hother hlength ih =>
    cases h
    refine List.forall_mem_cons.mpr ⟨Nat.le_refl _, fun third hthird => ?_⟩
    exact Nat.le_trans (ih hother third hthird) (Nat.le_of_not_lt hlength)

/-- A name that is longer than all others is the longest. -/
theorem longest?_eq_some (hmem : name ∈ names)
    (hothers : ∀ other ∈ names, other ≠ name → other.length < name.length) :
    longest? names = some name := by
  cases hfound : longest? names with
  | none => exact absurd (longest?_eq_none.mp hfound) (List.ne_nil_of_mem hmem)
  | some found =>
    by_cases hname : found = name
    · rw [hname]
    · have hle := length_le_of_longest? hfound name hmem
      have hlt := hothers found (mem_of_longest? hfound) hname
      omega

theorem exactMatch?_eq_some (hmem : name ∈ names) (hnamed : isNamed lower name = true)
    (hothers : ∀ other ∈ names, other ≠ name → isNamed lower other = true →
      other.length < name.length) : exactMatch? lower names = some name := by
  apply longest?_eq_some (List.mem_filter.mpr ⟨hmem, hnamed⟩)
  intro other hother hne
  obtain ⟨hmember, hothernamed⟩ := List.mem_filter.mp hother
  exact hothers other hmember hne hothernamed

theorem ne_empty_of_exactMatch? (h : exactMatch? lower names = some name) : name ≠ "" := by
  rintro rfl
  have hnamed := (List.mem_filter.mp (mem_of_longest? h)).2
  have hphrase := (Bool.and_eq_true_iff.mp hnamed).2
  exact absurd (Bool.and_eq_true_iff.mp hphrase).1 (by decide)

theorem mem_of_exactMatch? (h : exactMatch? lower names = some name) : name ∈ names :=
  (List.mem_filter.mp (mem_of_longest? h)).1

theorem mem_of_fuzzyMatch? {rest : String} (h : fuzzyMatch? rest names = some name) :
    name ∈ names := by
  unfold fuzzyMatch? at h
  split at h
  · cases h
  · rcases Option.or_eq_some_iff.mp h with hwhole | ⟨-, hword⟩
    · exact List.mem_of_find?_eq_some hwhole
    · exact List.mem_of_find?_eq_some hword

theorem mem_of_nameAmong? {query : String} (h : nameAmong? query names = some name) :
    name ∈ names := by
  rcases Option.or_eq_some_iff.mp h with hexact | ⟨-, hguess⟩
  · exact mem_of_exactMatch? hexact
  · exact mem_of_fuzzyMatch? hguess

end

section
variable {f : Column → Option String}

theorem Names.get_ofColumns (f : Column → Option String) (column : Column) :
    (Names.ofColumns f).get column = f column := by
  cases column <;> rfl

theorem Names.toList_ofColumns (h : ∀ column name, f column = some name → name ≠ "") :
    (Names.ofColumns f).toList =
      Column.all.filterMap fun column => (f column).map fun name => (column, name) := by
  have hgiven : ∀ column, ((Names.ofColumns f).get column).filter (!·.isEmpty) = f column := by
    intro column
    rw [Names.get_ofColumns]
    cases hname : f column with
    | none => rfl
    | some name => simp [Option.filter, h column name hname]
  simp only [Names.toList, hgiven]

variable {lower : String} {v : Vocabulary}

/-- A whole name in some column rules out guesses in all of them. -/
theorem names_of_exactMatch? (column : Column) {name : String}
    (h : exactMatch? lower (v.values column) = some name) :
    names lower v = Names.ofColumns fun c => exactMatch? lower (v.values c) := by
  have hmem : (column, name) ∈
      (Names.ofColumns fun c => exactMatch? lower (v.values c)).toList := by
    rw [Names.toList_ofColumns fun _ _ => ne_empty_of_exactMatch?]
    exact List.mem_filterMap.mpr ⟨column, by cases column <;> decide, by rw [h]; rfl⟩
  have hgiven := List.isEmpty_eq_false_iff_exists_mem.mpr ⟨_, hmem⟩
  simp only [names, hgiven, Bool.not_false, if_true]

/-- Names that are read off a question, whole or guessed, are those of the column. -/
theorem mem_of_get_names {column : Column} {name : String}
    (h : (names lower v).get column = some name) : name ∈ v.values column := by
  simp only [names] at h
  split at h
  · rw [Names.get_ofColumns] at h
    exact mem_of_exactMatch? h
  · rw [Names.get_ofColumns] at h
    exact mem_of_fuzzyMatch? h

/-- Without a whole name in any column, all columns are guessed. -/
theorem names_of_guesses (h : ∀ column, exactMatch? lower (v.values column) = none) :
    names lower v = Names.ofColumns fun c => fuzzyMatch? (cleaned lower) (v.values c) := by
  have hexact : (Names.ofColumns fun c => exactMatch? lower (v.values c)) = {} := by
    simp only [h]
    rfl
  unfold names
  simp only [hexact]
  rfl

/-- Without a whole name, and with no words left to guess by, nothing is named. -/
theorem names_of_none (h : ∀ column, exactMatch? lower (v.values column) = none)
    (hrest : nameWords lower = []) : names lower v = {} := by
  have hguess : ∀ column, fuzzyMatch? (cleaned lower) (v.values column) = none := by
    intro column
    rw [cleaned, hrest]
    rfl
  rw [names_of_guesses h]
  simp only [hguess]
  rfl

end

section
variable {β : Type} {text : String} {keywords : List String} {rules : List (List String × β)}

theorem firstRule_cons_of_mentioned (h : Text.mentionsAny text keywords = true) (what : β) :
    firstRule ((keywords, what) :: rules) text = some what := by
  rw [firstRule, List.find?_cons, h]
  rfl

theorem firstRule_cons_of_absent (h : Text.mentionsAny text keywords = false) (what : β) :
    firstRule ((keywords, what) :: rules) text = firstRule rules text := by
  rw [firstRule, List.find?_cons, h]
  rfl

theorem firstRule_eq_none (h : ∀ rule ∈ rules, Text.mentionsAny text rule.1 = false) :
    firstRule rules text = none := by
  rw [firstRule, List.find?_eq_none.mpr fun rule hrule => by simp [h rule hrule]]
  rfl

end

/-- The reading of a question with a given count. -/
def readAs (query : String) (vocabulary : Vocabulary) (count : Option Int) : Reading :=
  let lower := Text.lower query
  let intent := intent lower
  let names := names lower vocabulary
  { intent
    mentions := {
      names
      period := firstPeriod? lower
      count
      measure := (measure? lower).getD .amount
      periods := periods lower }
    modifiers := {
      monthWise := Text.mentionsAny lower ["month", "wise"]
      topN := Text.mentions lower "top" && count.isSome
      total := Text.mentionsAny lower ["total", "sum"]
      average := Text.mentionsAny lower ["average", "avg"]
      specific := isGiven names.customer || isGiven names.item
      comparison := intent == .comparison
      breakdown := intent == .temporalAnalysis } }

theorem read_eq {query : String} {count : Option Int} (h : count? query = .ok count)
    (vocabulary : Vocabulary) :
    read query vocabulary = .ok (readAs query vocabulary count) := by
  rw [read, h]
  rfl

end SalesDesk.Query

namespace SalesDesk.Vocabulary

/-- The names in a vocabulary are those of records, and not empty. -/
theorem exists_of_mem_values {α : Type} {records : List (Record α)} {column : Column}
    {name : String} (h : name ∈ (ofRecords records).values column) :
    name ≠ "" ∧ ∃ r ∈ records, r.named column = name := by
  cases records with
  | nil => cases column <;> cases h
  | cons first rest =>
    have hmem : name ∈ namesIn (first :: rest) column := by cases column <;> exact h
    obtain ⟨hnamed, hne⟩ := List.mem_filter.mp (List.mem_eraseDups.mp hmem)
    exact ⟨by simpa using hne, List.mem_map.mp hnamed⟩

end SalesDesk.Vocabulary
