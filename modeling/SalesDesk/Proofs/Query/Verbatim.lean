import SalesDesk.Proofs.Query.Named
import SalesDesk.Proofs.Text.Places

/-!
Names that stand in a question word for word. Where there are any, the longest of each column are
read off the question and nothing is guessed; the lookup in one column alone does not see the names
in the others, and guesses beside them.
-/
namespace SalesDesk.Query

/-- The name stands in the question as a whole, both in small letters, with no word character right
before or after it. Fillers are no names, and an empty text stands nowhere. -/
structure StandsIn (query name : String) : Prop where
  ne_empty : name ≠ ""
  not_filler : Text.lower name ∉ fillerWords
  split : ∃ before after,
    (Text.lower query).toList = before ++ (Text.lower name).toList ++ after ∧
      Text.wordAt before.getLast? = false ∧ Text.wordAt after.head? = false

/-- The name is the first of the longest ones that stand in the question. -/
def LongestIn (query : String) (values : List String) (name : String) : Prop :=
  ∃ before after, values = before ++ name :: after ∧ StandsIn query name ∧
    (∀ other ∈ before, StandsIn query other → other.length < name.length) ∧
    ∀ other ∈ after, StandsIn query other → other.length ≤ name.length

section
variable {query name : String} {values : List String}

theorem isNamed_iff : isNamed (Text.lower query) name = true ↔ StandsIn query name := by
  have hempty : Text.lower name ≠ "" ↔ name ≠ "" := by
    constructor
    · rintro hlower rfl
      exact hlower (by decide)
    · exact Text.lower_ne_empty
  rw [isNamed, Bool.and_eq_true, Text.hasPhrase_iff, hempty]
  constructor
  · rintro ⟨hfiller, hne, hsplit⟩
    exact ⟨hne, by simpa using hfiller, hsplit⟩
  · rintro ⟨hne, hfiller, hsplit⟩
    exact ⟨by simpa using hfiller, hne, hsplit⟩

/-- The longest name has shorter ones before it and none that are longer after it. -/
theorem exists_of_longest? {names : List String} (h : longest? names = some name) :
    ∃ before after, names = before ++ name :: after ∧
      (∀ other ∈ before, other.length < name.length) ∧
      ∀ other ∈ after, other.length ≤ name.length := by
  fun_induction longest? names with
  | case1 => cases h
  | case2 first rest hrest ih =>
    cases h
    obtain rfl := longest?_eq_none.mp hrest
    exact ⟨[], [], rfl, List.forall_mem_nil _, List.forall_mem_nil _⟩
  | case3 first rest other hother hlength ih =>
    obtain rfl : other = name := Option.some.inj h
    obtain ⟨before, after, rfl, hbefore, hafter⟩ := ih hother
    exact ⟨first :: before, after, rfl, List.forall_mem_cons.mpr ⟨hlength, hbefore⟩, hafter⟩
  | case4 first rest other hother hlength ih =>
    cases h
    refine ⟨[], rest, rfl, List.forall_mem_nil _, fun third hthird => ?_⟩
    exact Nat.le_trans (length_le_of_longest? hother third hthird) (Nat.le_of_not_lt hlength)

theorem longestIn_of_exactMatch? (h : exactMatch? (Text.lower query) values = some name) :
    LongestIn query values name := by
  obtain ⟨shorter, others, hsplit, hshorter, hothers⟩ := exists_of_longest? h
  obtain ⟨before, rest, rfl, rfl, hrest⟩ := List.filter_eq_append_iff.mp hsplit
  obtain ⟨between, after, rfl, hbetween, hnamed, rfl⟩ := List.filter_eq_cons_iff.mp hrest
  refine ⟨before ++ between, after, (List.append_assoc _ _ _).symm, isNamed_iff.mp hnamed, ?_, ?_⟩
  · intro other hother hstands
    rcases List.mem_append.mp hother with hbefore | hskipped
    · exact hshorter other (List.mem_filter.mpr ⟨hbefore, isNamed_iff.mpr hstands⟩)
    · exact absurd (isNamed_iff.mpr hstands) (hbetween other hskipped)
  · intro other hother hstands
    exact hothers other (List.mem_filter.mpr ⟨hother, isNamed_iff.mpr hstands⟩)

theorem exactMatch?_eq_none_iff : exactMatch? (Text.lower query) values = none ↔
    ∀ name ∈ values, ¬StandsIn query name := by
  rw [exactMatch?, longest?_eq_none, List.filter_eq_nil_iff]
  simp only [isNamed_iff]

theorem exists_exactMatch? : (∃ name, exactMatch? (Text.lower query) values = some name) ↔
    ∃ name ∈ values, StandsIn query name := by
  rw [← Option.isSome_iff_exists, ← not_iff_not, Option.not_isSome_iff_eq_none,
    exactMatch?_eq_none_iff]
  simp

end

section
variable {query : String} {v : Vocabulary}

/-- A name that stands in the question rules out guesses: each column gives the first of its longest
names that stand there, and nothing exactly if none of its names does. -/
theorem names_of_standsIn (h : ∃ column, ∃ name ∈ v.values column, StandsIn query name)
    (column : Column) :
    (∀ name, (names (Text.lower query) v).get column = some name →
      LongestIn query (v.values column) name) ∧
    ((names (Text.lower query) v).get column = none ↔
      ∀ name ∈ v.values column, ¬StandsIn query name) := by
  obtain ⟨other, hother⟩ := h
  obtain ⟨found, hfound⟩ := exists_exactMatch?.mpr hother
  rw [names_of_exactMatch? other hfound, Names.get_ofColumns]
  exact ⟨fun name => longestIn_of_exactMatch?, exactMatch?_eq_none_iff⟩

/-- Names that are alike, begin one another or are fillers. -/
def tradersVocabulary : Vocabulary := {
  customers := ["Acme", "Acme Traders", "ACME TRADERS", "Zen (Foods)"]
  items := ["Cement Bag"]
  categories := ["Steel", "Cement"]
  regions := ["All"] }

/-- Of customers that are alike the first is named; the item that shares a word with the question is
not guessed, and a filler is no region. -/
theorem names_of_standsIn_traders :
    (∃ column, ∃ name ∈ tradersVocabulary.values column,
      StandsIn "All of Acme Traders: cement?" name) ∧
    LongestIn "All of Acme Traders: cement?" tradersVocabulary.customers "Acme Traders" ∧
    (∀ name ∈ tradersVocabulary.items, ¬StandsIn "All of Acme Traders: cement?" name) ∧
    fuzzyMatch? (cleaned (Text.lower "All of Acme Traders: cement?")) tradersVocabulary.items =
      some "Cement Bag" ∧
    (names (Text.lower "All of Acme Traders: cement?") tradersVocabulary).category =
      some "Cement" ∧
    (names (Text.lower "All of Acme Traders: cement?") tradersVocabulary).region = none := by
  have h : ∃ column, ∃ name ∈ tradersVocabulary.values column,
      StandsIn "All of Acme Traders: cement?" name :=
    ⟨.category, "Cement", by decide, isNamed_iff.mp (by decide +kernel)⟩
  refine ⟨h, (names_of_standsIn h .customer).1 _ (by decide +kernel),
    (names_of_standsIn h .item).2.mp (by decide +kernel), by decide +kernel, by decide +kernel,
    by decide +kernel⟩

/-- The lookup in one column agrees with that in all columns exactly if a name of the column stands
in the question, or none of any column does, or there is nothing to guess. Otherwise the one guesses
a name of the column where the other gives none. -/
theorem nameAmong?_eq_get_names_iff (query : String) (v : Vocabulary) (column : Column) :
    (nameAmong? query (v.values column) = (names (Text.lower query) v).get column ↔
      (∃ name ∈ v.values column, StandsIn query name) ∨
      (∀ other, ∀ name ∈ v.values other, ¬StandsIn query name) ∨
      fuzzyMatch? (cleaned (Text.lower query)) (v.values column) = none) ∧
    (nameAmong? query (v.values column) ≠ (names (Text.lower query) v).get column →
      (names (Text.lower query) v).get column = none ∧
      nameAmong? query (v.values column) =
        fuzzyMatch? (cleaned (Text.lower query)) (v.values column)) := by
  have halone : nameAmong? query (v.values column) =
      (exactMatch? (Text.lower query) (v.values column)).or
        (fuzzyMatch? (cleaned (Text.lower query)) (v.values column)) := rfl
  rw [halone]
  cases hexact : exactMatch? (Text.lower query) (v.values column) with
  | some name =>
    have hstands := exists_exactMatch?.mp ⟨name, hexact⟩
    rw [names_of_exactMatch? column hexact, Names.get_ofColumns, hexact, Option.some_or]
    exact ⟨iff_of_true rfl (.inl hstands), fun hne => absurd rfl hne⟩
  | none =>
    have hlacks := exactMatch?_eq_none_iff.mp hexact
    have hhere : ¬∃ name ∈ v.values column, StandsIn query name :=
      fun ⟨name, hname, hstands⟩ => hlacks name hname hstands
    rw [Option.none_or]
    by_cases hall : ∀ other, ∀ name ∈ v.values other, ¬StandsIn query name
    · rw [names_of_guesses fun other => exactMatch?_eq_none_iff.mpr (hall other),
        Names.get_ofColumns]
      exact ⟨iff_of_true rfl (.inr (.inl hall)), fun hne => absurd rfl hne⟩
    · have hsome : ∃ other, ∃ name ∈ v.values other, StandsIn query name := by
        simpa using hall
      rw [(names_of_standsIn hsome column).2.mpr hlacks]
      refine ⟨⟨fun hguess => .inr (.inr hguess), ?_⟩, fun _ => ⟨rfl, rfl⟩⟩
      rintro (hstands | hnone | hguess)
      · exact absurd hstands hhere
      · exact absurd hnone hall
      · exact hguess

end

/-- A customer that shares a word with the name of a region. -/
def northVocabulary : Vocabulary := { customers := ["Northwind Traders"], regions := ["North"] }

/-- The region is named, so that no customer is; the lookup among customers alone guesses one. -/
theorem nameAmong?_guesses_northwind :
    (names (Text.lower "customer analysis for north") northVocabulary).region = some "North" ∧
    (names (Text.lower "customer analysis for north") northVocabulary).get .customer = none ∧
    nameAmong? "customer analysis for north" (northVocabulary.values .customer) =
      some "Northwind Traders" := by
  refine ⟨by decide +kernel, by decide +kernel, by decide +kernel⟩

end SalesDesk.Query
