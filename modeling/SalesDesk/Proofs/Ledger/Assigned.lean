import SalesDesk.Proofs.Ledger.Spellings
import Mathlib.Data.List.Induction

/-!
What a row assigns to a field that it gives under several spellings. Of the values that the row has
for it, in any order and among those of other fields, the first one that holds something counts, and
if none of them does, the last one.
-/
namespace SalesDesk.Intake

/-- The first of the values that holds something, or else the last one. -/
def firstHeld? (vs : List Value) : Option Value := (vs.find? (!·.isAbsent)).or vs.getLast?

theorem all_isAbsent_firstHeld? (vs : List Value) :
    (firstHeld? vs).all (·.isAbsent) = vs.all (·.isAbsent) := by
  unfold firstHeld?
  cases hfind : vs.find? (!·.isAbsent) with
  | some v =>
    have hheld : v.isAbsent = false := by simpa using List.find?_some hfind
    have hmem : v ∈ vs := List.mem_of_find?_eq_some hfind
    have hsome : vs.all (·.isAbsent) = false := List.all_eq_false.mpr ⟨v, hmem, by simp [hheld]⟩
    rw [hsome, Option.some_or, Option.all_some, hheld]
  | none =>
    have hnone : ∀ v ∈ vs, v.isAbsent = true := by simpa using List.find?_eq_none.mp hfind
    rw [Option.none_or, List.all_eq_true.mpr hnone]
    cases hlast : vs.getLast? with
    | none => rfl
    | some v => exact hnone v (List.mem_of_getLast? hlast)

/-- One value more counts exactly as long as no earlier one holds anything. -/
theorem firstHeld?_concat (vs : List Value) (v : Value) :
    firstHeld? (vs ++ [v]) = settle (firstHeld? vs) v := by
  rw [settle, all_isAbsent_firstHeld?]
  by_cases hall : vs.all (·.isAbsent) = true
  · have hnone : vs.find? (!·.isAbsent) = none := by
      rw [List.find?_eq_none]
      intro w hw
      simp [List.all_eq_true.mp hall w hw]
    rw [if_pos hall, firstHeld?, List.find?_append, hnone, Option.none_or, List.getLast?_concat]
    cases hv : v.isAbsent <;> simp [hv]
  · obtain ⟨w, hw⟩ : ∃ w, vs.find? (!·.isAbsent) = some w := by
      rw [← Option.isSome_iff_exists, List.find?_isSome]
      simpa using hall
    rw [if_neg hall, firstHeld?, firstHeld?, List.find?_append, hw]
    rfl

theorem foldl_settle (vs : List Value) : vs.foldl settle none = firstHeld? vs := by
  induction vs using List.reverseRecOn with
  | nil => rfl
  | append_singleton vs v ih =>
    rw [List.foldl_append, ih, firstHeld?_concat]
    rfl

theorem firstHeld?_eq_some_iff {vs : List Value} {v : Value} : firstHeld? vs = some v ↔
    (∃ before after, vs = before ++ v :: after ∧ v.isAbsent = false ∧
      ∀ w ∈ before, w.isAbsent = true) ∨
    (∀ w ∈ vs, w.isAbsent = true) ∧ ∃ before, vs = before ++ [v] := by
  rw [firstHeld?, Option.or_eq_some_iff, List.find?_eq_some_iff_append, List.find?_eq_none,
    List.getLast?_eq_some_iff]
  simp only [Bool.not_eq_false, Bool.not_eq_eq_eq_not, Bool.not_true, Bool.not_false]
  refine or_congr_left ?_
  constructor
  · rintro ⟨hheld, before, after, hvs, hearlier⟩
    exact ⟨before, after, hvs, hheld, hearlier⟩
  · rintro ⟨before, after, hvs, hheld, hearlier⟩
    exact ⟨hheld, before, after, hvs, hearlier⟩

section
variable {name : String} {row : Entries Value} {v : Value}

theorem forall_mem_valuesFor {P : Value → Prop} : (∀ w ∈ valuesFor name row, P w) ↔
    ∀ f ∈ row, fieldName f.1 = name → P f.2 := by
  simp only [valuesFor, List.forall_mem_map, List.mem_filter, beq_iff_eq, and_imp]

theorem valuesFor_eq_nil_iff : valuesFor name row = [] ↔ ∀ f ∈ row, fieldName f.1 ≠ name := by
  rw [valuesFor, List.map_eq_nil_iff, List.filter_eq_nil_iff]
  simp only [beq_iff_eq, ne_eq]

/-- A value among those for a name is that of a key for it, with the other values before and behind
the key. -/
theorem valuesFor_eq_append_cons_iff {vs ws : List Value} : valuesFor name row = vs ++ v :: ws ↔
    ∃ before key after, row = before ++ (key, v) :: after ∧ fieldName key = name ∧
      valuesFor name before = vs ∧ valuesFor name after = ws := by
  constructor
  · intro h
    obtain ⟨left, right, hfilter, hleft, hright⟩ := List.map_eq_append_iff.mp h
    obtain ⟨f, right', rfl, rfl, hright'⟩ := List.map_eq_cons_iff.mp hright
    obtain ⟨before, others, hrow, hbefore, hothers⟩ := List.filter_eq_append_iff.mp hfilter
    obtain ⟨between, after, hsplit, hnone, hname, hafter⟩ := List.filter_eq_cons_iff.mp hothers
    refine ⟨before ++ between, f.1, after, ?_, eq_of_beq hname, ?_, ?_⟩
    · rw [hrow, hsplit, List.append_assoc]
    · have hbetween : valuesFor name between = [] := by
        rw [valuesFor_eq_nil_iff]
        exact fun g hg heq => hnone g hg (beq_iff_eq.mpr heq)
      rw [valuesFor_append, hbetween, List.append_nil, valuesFor, hbefore, hleft]
    · rw [valuesFor, hafter, hright']
  · rintro ⟨before, key, after, rfl, hkey, rfl, rfl⟩
    rw [valuesFor_append, valuesFor_cons, if_pos hkey]

end

/-- The value that a row assigns to a name: of the keys that stand for the name, the first one whose
value holds something has it, or else the last one. -/
inductive Assigns (name : String) (row : Entries Value) (v : Value) : Prop
  | first {before after : Entries Value} {key : String}
    (hrow : row = before ++ (key, v) :: after) (hkey : fieldName key = name)
    (hheld : v.isAbsent = false)
    (hearlier : ∀ f ∈ before, fieldName f.1 = name → f.2.isAbsent = true)
  | last {before after : Entries Value} {key : String}
    (hrow : row = before ++ (key, v) :: after) (hkey : fieldName key = name)
    (hnone : ∀ f ∈ row, fieldName f.1 = name → f.2.isAbsent = true)
    (hlater : ∀ f ∈ after, fieldName f.1 ≠ name)

theorem firstHeld?_valuesFor_iff {name : String} {row : Entries Value} {v : Value} :
    firstHeld? (valuesFor name row) = some v ↔ Assigns name row v := by
  rw [firstHeld?_eq_some_iff, forall_mem_valuesFor]
  constructor
  · rintro (⟨vs, ws, hsplit, hheld, hearlier⟩ | ⟨hnone, vs, hsplit⟩)
    · obtain ⟨before, key, after, hrow, hkey, rfl, -⟩ := valuesFor_eq_append_cons_iff.mp hsplit
      exact .first hrow hkey hheld (forall_mem_valuesFor.mp hearlier)
    · obtain ⟨before, key, after, hrow, hkey, -, hlater⟩ := valuesFor_eq_append_cons_iff.mp hsplit
      exact .last hrow hkey hnone (valuesFor_eq_nil_iff.mp hlater)
  · rintro (⟨hrow, hkey, hheld, hearlier⟩ | ⟨hrow, hkey, hnone, hlater⟩)
    · exact .inl ⟨_, _, valuesFor_eq_append_cons_iff.mpr ⟨_, _, _, hrow, hkey, rfl, rfl⟩, hheld,
        forall_mem_valuesFor.mpr hearlier⟩
    · exact .inr ⟨hnone, _, valuesFor_eq_append_cons_iff.mpr
        ⟨_, _, _, hrow, hkey, rfl, valuesFor_eq_nil_iff.mpr hlater⟩⟩

theorem nodup_names_canonical (row : Entries Value) : ((canonical row).map Prod.fst).Nodup := by
  induction row using List.reverseRecOn with
  | nil => exact List.nodup_nil
  | append_singleton row f ih =>
    have hstep : canonical (row ++ [f]) = merge (canonical row) (fieldName f.1) f.2 :=
      List.foldl_append
    rw [hstep, merge]
    split
    · exact Entries.nodup_names_put ih
    · exact ih

/-- A row under the fields' own names holds each name once. It has a value for a name exactly if a
key of the row stands for it, and this is the value that the row assigns to it. -/
theorem canonical_assigns (row : Entries Value) (name : String) :
    ((canonical row).map Prod.fst).Nodup ∧
      (∀ v, (canonical row).lookup name = some v ↔ Assigns name row v) ∧
      ((canonical row).lookup name = none ↔ ∀ f ∈ row, fieldName f.1 ≠ name) := by
  have hlookup : (canonical row).lookup name = firstHeld? (valuesFor name row) := by
    rw [lookup_canonical, foldl_settle]
  refine ⟨nodup_names_canonical row, fun v => ?_, ?_⟩
  · rw [hlookup, firstHeld?_valuesFor_iff]
  · rw [hlookup, firstHeld?, Option.or_eq_none_iff, List.getLast?_eq_none_iff,
      and_iff_right_of_imp (fun h => by rw [h]; rfl), valuesFor_eq_nil_iff]

example : (canonical [("date", .null), ("customer", .text "Acme"), ("cp_date", .text "2024-04-02"),
    ("transactionDate", .text "2024-05-09")]).lookup Field.date.name =
    some (.text "2024-04-02") := by with_unfolding_all rfl

end SalesDesk.Intake
