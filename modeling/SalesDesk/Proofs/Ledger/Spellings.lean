import SalesDesk.Proofs.Ledger.Export

/-!
What a row says of a field under its several spellings, and what it says of a field that it does not
give. Null in an optional field is read as if the field were left out, but for the mark of a sale: a
row without it is a sale, and a row that marks it null is none.
-/
namespace SalesDesk

theorem Field.name_injective : Function.Injective Field.name := by
  have hnodup : (all.map name).Nodup := by decide
  have hall : ∀ field : Field, field ∈ all := by
    rintro ((_ | _ | _ | _) | _ | _ | _ | _ | _ | _) <;> decide
  exact fun a b h => List.inj_on_of_nodup_map hnodup (hall a) (hall b) h

/-- The record with nothing in an optional field; whether it is a sale then is given. -/
def Record.unset (r : Record Float) (sale : Bool) : Field → Record Float
  | .named .item => { r with item := "" }
  | .named .category => { r with category := "" }
  | .named .region => { r with region := "" }
  | .isSale => { r with isSale := sale }
  | .country => { r with country := none }
  | _ => r

namespace Intake

/-- Of the values that are given for a name, a later one counts only where the earlier ones hold
nothing. -/
def settle (found : Option Value) (v : Value) : Option Value :=
  if found.all (·.isAbsent) then some v else found

def valuesFor (name : String) (row : Entries Value) : List Value :=
  (row.filter fun f => fieldName f.1 == name).map Prod.snd

section
variable {name : String}

theorem valuesFor_cons (f : String × Value) (row : Entries Value) : valuesFor name (f :: row) =
    if fieldName f.1 = name then f.2 :: valuesFor name row else valuesFor name row := by
  unfold valuesFor
  by_cases h : fieldName f.1 = name <;> simp [h]

theorem valuesFor_append (row row' : Entries Value) :
    valuesFor name (row ++ row') = valuesFor name row ++ valuesFor name row' := by
  rw [valuesFor, List.filter_append, List.map_append, valuesFor, valuesFor]

theorem valuesFor_eq_nil {row : Entries Value} (h : ∀ f ∈ row, fieldName f.1 ≠ name) :
    valuesFor name row = [] := by
  rw [valuesFor, List.map_eq_nil_iff, List.filter_eq_nil_iff]
  exact fun f hf => mt beq_iff_eq.mp (h f hf)

end

theorem lookup_merge (found : Entries Value) (name : String) (v : Value) (key : String) :
    (merge found name v).lookup key =
      if key = name then settle (found.lookup key) v else found.lookup key := by
  unfold merge settle
  by_cases hkey : key = name
  · subst hkey
    rw [if_pos rfl]
    split
    · exact Entries.lookup_put_self
    · rfl
  · rw [if_neg hkey]
    split
    · exact Entries.lookup_put_of_ne hkey
    · rfl

theorem lookup_canonical (row : Entries Value) (name : String) :
    (canonical row).lookup name = (valuesFor name row).foldl settle none := by
  -- the fields before these may have settled something already
  have hfold : ∀ found : Entries Value,
      (row.foldl (fun found f => merge found (fieldName f.1) f.2) found).lookup name =
        (valuesFor name row).foldl settle (found.lookup name) := by
    induction row with
    | nil => exact fun _ => rfl
    | cons f rest ih =>
      intro found
      rw [List.foldl_cons, ih, lookup_merge, valuesFor_cons]
      by_cases hname : fieldName f.1 = name
      · rw [if_pos hname, if_pos hname.symm, List.foldl_cons]
      · rw [if_neg hname, if_neg (Ne.symm hname)]
  exact hfold []

def SaysField (index : Nat) (today : Date) (r : Record Float) : Field → Option Value → Prop
  | .named column, given => readName (given.getD .null) = .ok (r.named column)
  | .amount, given => readAmount index Field.amount.name (given.getD .null) = .ok r.amount
  | .quantity, given => readAmount index Field.quantity.name (given.getD .null) = .ok r.quantity
  | .masterId, given => given.getD .null = r.masterId
  | .date, given => readDay index (given.getD .null) today = .ok r.date
  | .isSale, given => readFlag (given.getD (.bool true)) = r.isSale
  | .country, given => readCountry (given.getD .null) = .ok r.country

theorem says_iff {index : Nat} {row : Entries Value} {today : Date} {r : Record Float} :
    Says index row today r ↔ missing row = [] ∧
      ∀ field : Field, SaysField index today r field (row.lookup field.name) := by
  constructor
  · intro h
    refine ⟨h.present, ?_⟩
    rintro (column | _ | _ | _ | _ | _ | _)
    · exact h.named column
    · exact h.amount
    · exact h.quantity
    · exact h.masterId
    · exact h.date
    · exact h.isSale
    · exact h.country
  · rintro ⟨hpresent, hfields⟩
    exact ⟨hpresent, fun column => hfields (.named column), hfields .amount, hfields .quantity,
      hfields .masterId, hfields .date, hfields .isSale, hfields .country⟩

/-- The fields that a row may leave out. -/
def optional : List Field :=
  [.named .item, .named .category, .named .region, .isSale, .country]

/-- A row that may give a value under a key, between other entries. -/
def rowWith (before : Entries Value) (key : String) (given : Option Value)
    (after : Entries Value) : Entries Value :=
  before ++ (given.map fun v => (key, v)).toList ++ after

section
variable {before after : Entries Value} {key : String} {given : Option Value}
  {field : Field}

theorem lookup_rowWith (hkey : fieldName key = field.name)
    (hothers : ∀ f ∈ before ++ after, fieldName f.1 ≠ field.name) :
    (canonical (rowWith before key given after)).lookup field.name = given := by
  rw [List.forall_mem_append] at hothers
  rw [lookup_canonical, rowWith, valuesFor_append, valuesFor_append, valuesFor_eq_nil hothers.1,
    valuesFor_eq_nil hothers.2, List.nil_append, List.append_nil]
  cases given with
  | none => rfl
  | some v =>
    have hvalue : valuesFor field.name [(key, v)] = [v] := by
      rw [valuesFor_cons, if_pos hkey]
      rfl
    exact congrArg (List.foldl settle none) hvalue

theorem lookup_rowWith_of_ne (hkey : fieldName key = field.name) {name : String}
    (hne : name ≠ field.name) (given given' : Option Value) :
    (canonical (rowWith before key given after)).lookup name =
      (canonical (rowWith before key given' after)).lookup name := by
  have hnone : ∀ given : Option Value,
      valuesFor name (given.map fun v => (key, v)).toList = [] := by
    intro given
    apply valuesFor_eq_nil
    intro f hf
    obtain ⟨v, -, rfl⟩ := Option.map_eq_some_iff.mp (Option.mem_toList.mp hf)
    rw [hkey]
    exact Ne.symm hne
  simp only [lookup_canonical, rowWith, valuesFor_append, hnone]

end

section
variable {index : Nat} {today : Date} {r : Record Float} {field : Field}

theorem saysField_none (hfield : field ∈ optional) :
    SaysField index today (r.unset true field) field none := by
  simp only [optional, List.mem_cons, List.not_mem_nil, or_false] at hfield
  rcases hfield with rfl | rfl | rfl | rfl | rfl <;> rfl

theorem saysField_null (hfield : field ∈ optional) :
    SaysField index today (r.unset false field) field (some .null) := by
  simp only [optional, List.mem_cons, List.not_mem_nil, or_false] at hfield
  rcases hfield with rfl | rfl | rfl | rfl | rfl <;> rfl

theorem saysField_unset {other : Field} {given : Option Value} (sale : Bool) (hne : other ≠ field)
    (h : SaysField index today r other given) :
    SaysField index today (r.unset sale field) other given := by
  -- what a field says is told by its own entry of the record, which only the field itself unsets
  rcases field with (_ | _ | _ | _) | _ | _ | _ | _ | _ | _ <;>
    rcases other with (_ | _ | _ | _) | _ | _ | _ | _ | _ | _ <;>
    first
    | exact h
    | exact absurd rfl hne

theorem unset_eq (sale sale' : Bool) (h : field ≠ .isSale) :
    r.unset sale field = r.unset sale' field := by
  rcases field with (_ | _ | _ | _) | _ | _ | _ | _ | _ | _
  case isSale => exact absurd rfl h
  all_goals rfl

/-- A row that says a record says it without an optional field once nothing is given there. -/
theorem says_unset {before after : Entries Value} {key : String} {given nothing : Option Value}
    (h : Says index (canonical (rowWith before key given after)) today r)
    (hfield : field ∈ optional) (hkey : fieldName key = field.name)
    (hothers : ∀ f ∈ before ++ after, fieldName f.1 ≠ field.name) {sale : Bool}
    (hnothing : SaysField index today (r.unset sale field) field nothing) :
    Says index (canonical (rowWith before key nothing after)) today (r.unset sale field) := by
  obtain ⟨hpresent, hfields⟩ := says_iff.mp h
  have hsame : ∀ other : Field, other ≠ field →
      (canonical (rowWith before key nothing after)).lookup other.name =
        (canonical (rowWith before key given after)).lookup other.name := fun other hne =>
    lookup_rowWith_of_ne hkey (fun hname => hne (Field.name_injective hname)) nothing given
  have hapart : ∀ other ∈ required, other ∉ optional := by decide
  refine says_iff.mpr ⟨?_, fun other => ?_⟩
  · rw [missing_eq_nil_iff] at hpresent ⊢
    intro other hother
    have hne : other ≠ field := fun heq => hapart other hother (heq ▸ hfield)
    rw [fieldOf, hsame other hne]
    exact hpresent other hother
  · by_cases hne : other = field
    · rw [hne, lookup_rowWith hkey hothers]
      exact hnothing
    · rw [hsame other hne]
      exact saysField_unset sale hne (hfields other)

end

/-- A row that is read, with any value or none in an optional field, is also read with null there
and without the field, under any spelling and at any place in the row. Both give the same record
unless the field is the mark of a sale: without it the row is a sale, and with null it is none. -/
theorem null_reads_as_leftOut_iff {index : Nat} {today : Date} {r : Record Float}
    {before after : Entries Value} {key : String} {given : Option Value} {field : Field}
    (hread : readRow index (.raw (.object (rowWith before key given after))) today = .ok r)
    (hfield : field ∈ optional) (hkey : fieldName key = field.name)
    (hothers : ∀ f ∈ before ++ after, fieldName f.1 ≠ field.name) :
    let leftOut := readRow index (.raw (.object (rowWith before key none after))) today
    let null := readRow index (.raw (.object (rowWith before key (some .null) after))) today
    leftOut = .ok (r.unset true field) ∧ null = .ok (r.unset false field) ∧
      (null = leftOut ↔ field ≠ .isSale) := by
  intro leftOut null
  have hsays := readFields_eq_ok_iff.mp hread
  have hleft : leftOut = .ok (r.unset true field) :=
    readFields_eq_ok_iff.mpr (says_unset hsays hfield hkey hothers (saysField_none hfield))
  have hnull : null = .ok (r.unset false field) :=
    readFields_eq_ok_iff.mpr (says_unset hsays hfield hkey hothers (saysField_null hfield))
  refine ⟨hleft, hnull, ?_⟩
  rw [hleft, hnull, Except.ok.injEq]
  constructor
  · rintro hsame rfl
    exact Bool.false_ne_true (congrArg Record.isSale hsame)
  · exact unset_eq false true

/-- A sale that may give a value under one key more. -/
def saleWith (key : String) (given : Option Value) : Entries Value :=
  rowWith [("customer", .text "Acme"), ("amount", .int 1), ("quantity", .int 1)] key given
    [("masterid", .text "m1"), ("date", .text "2024-04-02")]

theorem null_reads_as_leftOut_iff_region : ∃ r,
    (readRow 0 (.raw (.object (saleWith "region" (some (.text " North "))))) .standIn = .ok r ∧
      Field.named .region ∈ optional ∧ fieldName "region" = Field.name (.named .region)) ∧
    r.region = "North" ∧
    readRow 0 (.raw (.object (saleWith "region" none))) .standIn =
      .ok (r.unset true (.named .region)) ∧
    readRow 0 (.raw (.object (saleWith "region" (some .null)))) .standIn =
      readRow 0 (.raw (.object (saleWith "region" none))) .standIn := by
  have hseen :
      (readRow 0 (.raw (.object (saleWith "region" (some (.text " North ")))))
        .standIn).toOption.any (·.region == "North") = true := by decide +kernel
  obtain ⟨r, hread, hregion⟩ := exists_of_toOption_any hseen
  have hfield : Field.named .region ∈ optional := by decide
  have hkey : fieldName "region" = Field.name (.named .region) := by decide
  obtain ⟨hleft, -, hsame⟩ := null_reads_as_leftOut_iff hread hfield hkey (by decide)
  exact ⟨r, ⟨hread, hfield, hkey⟩, eq_of_beq hregion, hleft, hsame.mpr (by decide)⟩

/-- The same row is a sale without the mark, and none with a mark of null. -/
theorem nullMark_unlike_leftOut : fieldName "issales" = Field.isSale.name ∧
    ∃ leftOut null, readRow 0 (.raw (.object (saleWith "issales" none))) .standIn = .ok leftOut ∧
      readRow 0 (.raw (.object (saleWith "issales" (some .null)))) .standIn = .ok null ∧
      leftOut.isSale = true ∧ null.isSale = false := by
  have hleft : (readRow 0 (.raw (.object (saleWith "issales" none))) .standIn).toOption.any
      (·.isSale) = true := by decide +kernel
  have hnull : (readRow 0 (.raw (.object (saleWith "issales" (some .null)))) .standIn).toOption.any
      (!·.isSale) = true := by decide +kernel
  obtain ⟨leftOut, hreadLeft, hsale⟩ := exists_of_toOption_any hleft
  obtain ⟨null, hreadNull, hnone⟩ := exists_of_toOption_any hnull
  exact ⟨by decide, leftOut, null, hreadLeft, hreadNull, hsale, by simpa using hnone⟩

end Intake

end SalesDesk
