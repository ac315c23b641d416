import SalesDesk.Proofs.Ledger.Filtering

/-!
Stacks of filters keep the records that pass all of them, whatever the order in which the filters
were added.
-/
namespace SalesDesk

namespace Period

/-- The month and the year, where they are given, can be asked for. -/
structure Proper (p : Period) : Prop where
  month : ∀ name, p.month = some name → name ∈ monthNames
  year : ∀ y, p.year = some y → 0 < y

def contains (p : Period) (d : Date) : Bool :=
  p.month.all (fun name => d.month == monthNames.idxOf name + 1) &&
    p.year.all ((d.year : Int) == ·)

namespace Proper

variable {p : Period}

theorem monthNumber_eq (h : p.Proper) :
    p.monthNumber = .ok (p.month.map fun name => monthNames.idxOf name + 1) := by
  cases hmonth : p.month with
  | none => simp [monthNumber, month?, hmonth]
  | some name =>
    have hmem : name ∈ monthNames := h.month name hmonth
    have hgiven : p.month? = some name := by
      have hempty : "" ∉ monthNames := by decide
      have hne : name ≠ "" := fun heq => hempty (heq ▸ hmem)
      simp [month?, hmonth, hne]
    have hplace : monthNames.idxOf? name = some (monthNames.idxOf name) := by
      have hlt : monthNames.idxOf name < monthNames.length := List.idxOf_lt_length_iff.mpr hmem
      exact List.findIdx?_eq_some_iff_findIdx_eq.mpr ⟨hlt, rfl⟩
    rw [monthNumber, hgiven]
    simp only [hplace, Option.map_some]

theorem year?_eq (h : p.Proper) : p.year? = p.year := by
  cases hyear : p.year with
  | none => simp [year?, hyear]
  | some y =>
    have hpos : 0 < y := h.year y hyear
    have hne : y ≠ 0 := by omega
    simp [year?, hyear, hne]

theorem includes_eq (h : p.Proper) (d : Date) :
    includes (p.month.map fun name => monthNames.idxOf name + 1) p.year? d = p.contains d := by
  rw [h.year?_eq, includes, contains, Option.all_map]

end Proper

end Period

namespace Filter

/-- What a filter on a field that questions can name asks of a record. -/
inductive Criterion
  | named (column : Column) (name : String)
  | isSale (flag : Bool)
  | period (p : Option Period)

namespace Criterion

def field : Criterion → String
  | named column _ => column.name
  | isSale _ => Field.isSale.name
  | period _ => periodField

def condition (today : Date) : Criterion → Condition Float
  | named column name => conditionOf column.name (.text name) today
  | isSale flag => conditionOf Field.isSale.name (.bool flag) today
  | period p => .all (.period p)

def Proper : Criterion → Prop
  | period p => ∀ q, p = some q → q.Proper
  | _ => True

def meets (c : Criterion) (r : Record Float) : Bool :=
  match c with
  | named column name => r.named column == name
  | isSale flag => r.isSale == flag
  | period p => p.all (·.contains r.date)

def test : Criterion → Test Float
  | named column name => .named column (some name)
  | isSale flag => .isSale (.bool flag)
  | period p => .period p

theorem condition_eq (c : Criterion) (today : Date) : c.condition today = .all c.test := by
  cases c with
  | named column name => cases column <;> rfl
  | isSale flag => rfl
  | period p => rfl

/-- A proper criterion can be looked up, and then holds where it is met. -/
theorem exists_month? {c : Criterion} (h : c.Proper) (ids : IdColumn) :
    ∃ month, c.test.month? ids = .ok month ∧ ∀ r, c.test.holds month ids r = c.meets r := by
  cases c with
  | named column name =>
    refine ⟨none, rfl, fun r => ?_⟩
    simp [test, Test.holds, meets, BEq.comm]
  | isSale flag =>
    refine ⟨none, rfl, fun r => ?_⟩
    have hflag : ∀ a b : Bool, (Value.bool a == Value.bool b) = (a == b) := by decide
    exact hflag r.isSale flag
  | period p =>
    cases p with
    | none => exact ⟨none, rfl, fun r => rfl⟩
    | some q =>
      have hq : q.Proper := h q rfl
      exact ⟨_, hq.monthNumber_eq, fun r => hq.includes_eq r.date⟩

end Criterion

/-- A filter as it is asked for. -/
structure Spec where
  criterion : Criterion
  label : String
  mode : Mode := .keep
  enabled : Bool := true

namespace Spec

def filter (today : Date) (s : Spec) : Filter Float :=
  ⟨s.criterion.field, s.criterion.condition today, s.label, s.mode, s.enabled⟩

def isPeriod (s : Spec) : Bool := s.criterion.field == periodField

def accepts (s : Spec) (r : Record Float) : Bool := s.criterion.meets r == s.mode.keeps

/-- The same filter, dropping what it kept. -/
def turned (s : Spec) : Spec := { s with mode := .drop }

variable {β : Type} {record : β → Record Float} {today : Date}

/-- One filter at work. -/
theorem applyTo_eq {s : Spec} (h : s.criterion.Proper) (rows : List β) :
    (s.filter today).applyTo record rows = .ok (rows.filter fun row => s.accepts (record row)) := by
  have hselect : (s.criterion.condition today).select record s.mode.keeps rows =
      .ok (rows.filter fun row => s.accepts (record row)) := by
    obtain ⟨month, hmonth, hholds⟩ :=
      Criterion.exists_month? h (IdColumn.ofIds (rows.map fun row => (record row).masterId))
    simp only [Criterion.condition_eq, Condition.select, hmonth, hholds, ok_bind]
    rfl
  rw [applyTo, filter, hselect]
  -- Without rows a filter may do nothing at all, which leaves none as well.
  cases rows with
  | nil => exact ite_self _
  | cons row rest => rfl

/-- The specs in the order in which they work. -/
def inOrder (stack : List Spec) : List Spec :=
  (stack.filter (!·.isPeriod) ++ stack.filter (·.isPeriod)).filter (·.enabled)

theorem inOrder_map_filter (stack : List Spec) :
    Filter.inOrder (stack.map (filter today)) = (inOrder stack).map (filter today) := by
  rw [Filter.inOrder, inOrder, List.filter_map, List.filter_map, ← List.map_append,
    List.filter_map]
  rfl

theorem mem_inOrder {stack : List Spec} {s : Spec} :
    s ∈ inOrder stack ↔ s ∈ stack ∧ s.enabled = true := by
  rw [inOrder, List.mem_filter, List.mem_append, List.mem_filter, List.mem_filter]
  cases s.isPeriod <;> simp

/-- Filters one after another keep what all of them accept. -/
theorem foldlM_eq {specs : List Spec} (h : ∀ s ∈ specs, s.criterion.Proper) (rows : List β) :
    (specs.map (filter today)).foldlM (fun rows f => f.applyTo record rows) rows =
      .ok (rows.filter fun row => specs.all (·.accepts (record row))) := by
  -- Each filter works on the rows that those before it have left.
  induction specs generalizing rows with
  | nil => simp [List.filter_eq_self.mpr]
  | cons s rest ih =>
    obtain ⟨hs, hrest⟩ := List.forall_mem_cons.mp h
    rw [List.map_cons, List.foldlM_cons, applyTo_eq hs, ok_bind, ih hrest, List.filter_filter]
    simp only [List.all_cons, Bool.and_comm]

def passes (stack : List Spec) (r : Record Float) : Bool :=
  stack.all fun s => !s.enabled || s.accepts r

theorem all_inOrder (stack : List Spec) (r : Record Float) :
    (inOrder stack).all (·.accepts r) = passes stack r := by
  rw [Bool.eq_iff_iff, passes, List.all_eq_true, List.all_eq_true]
  constructor
  · intro h s hs
    cases henabled : s.enabled with
    | false => rfl
    | true => exact h s (mem_inOrder.mpr ⟨hs, henabled⟩)
  · intro h s hs
    obtain ⟨hmem, henabled⟩ := mem_inOrder.mp hs
    have haccepts := h s hmem
    rwa [henabled] at haccepts

theorem passes_iff {stack : List Spec} {r : Record Float} : passes stack r = true ↔
    (∀ s ∈ stack, s.enabled = true → s.mode.keeps = true → s.criterion.meets r = true) ∧
    (∀ s ∈ stack, s.enabled = true → s.mode.keeps = false → s.criterion.meets r = false) := by
  have hone : ∀ s : Spec, (!s.enabled || s.accepts r) = true ↔
      (s.enabled = true → s.mode.keeps = true → s.criterion.meets r = true) ∧
      (s.enabled = true → s.mode.keeps = false → s.criterion.meets r = false) := by
    intro s
    rw [accepts]
    cases s.enabled <;> cases s.mode.keeps <;> cases s.criterion.meets r <;> simp
  rw [passes, List.all_eq_true]
  simp only [hone]
  exact ⟨fun h => ⟨fun s hs => (h s hs).1, fun s hs => (h s hs).2⟩,
    fun h s hs => ⟨h.1 s hs, h.2 s hs⟩⟩

theorem passes_perm {stack other : List Spec} (h : other.Perm stack) (r : Record Float) :
    passes other r = passes stack r := by
  rw [Bool.eq_iff_iff, passes, passes, List.all_eq_true, List.all_eq_true]
  simp only [h.mem_iff]

theorem passes_between (before after : List Spec) (s : Spec) (r : Record Float) :
    passes (before ++ s :: after) r =
      ((!s.enabled || s.accepts r) && passes (before ++ after) r) := by
  rw [passes, passes, List.all_append, List.all_append, List.all_cons, Bool.and_left_comm]

/-- All filters of a stack at work. -/
theorem applyAllTo_eq {stack : List Spec} (h : ∀ s ∈ stack, s.criterion.Proper) (rows : List β) :
    applyAllTo record (stack.map (filter today)) rows =
      .ok (rows.filter fun row => passes stack (record row)) := by
  have hordered : ∀ s ∈ inOrder stack, s.criterion.Proper := fun s hs =>
    h s (mem_inOrder.mp hs).1
  rw [applyAllTo, inOrder_map_filter, foldlM_eq hordered]
  simp only [all_inOrder]

end Spec

/-- A stack of filters keeps exactly the records that meet what it keeps and nothing that it drops,
in their order and each once. So it does not matter in which order the filters were added or
whether they are applied again, and a filter that is turned round picks the others of the records
that the rest of the stack keeps. -/
theorem applyAllTo_stack (rows : List (Record Float)) (today : Date) {stack : List Spec}
    (h : ∀ s ∈ stack, s.criterion.Proper) :
    ∃ kept, applyAllTo Prod.fst (stack.map (Spec.filter today)) rows.zipIdx = .ok kept ∧
      kept.Sublist rows.zipIdx ∧ (kept.map Prod.snd).Nodup ∧
      (∀ row ∈ rows.zipIdx, row ∈ kept ↔
        (∀ s ∈ stack, s.enabled = true → s.mode.keeps = true → s.criterion.meets row.1 = true) ∧
        (∀ s ∈ stack, s.enabled = true → s.mode.keeps = false →
          s.criterion.meets row.1 = false)) ∧
      (∀ other : List Spec, other.Perm stack →
        applyAllTo Prod.fst (other.map (Spec.filter today)) rows.zipIdx = .ok kept) ∧
      applyAllTo Prod.fst (stack.map (Spec.filter today)) kept = .ok kept ∧
      ∀ before s after, stack = before ++ s :: after → s.mode.keeps = true →
        ∃ others,
          applyAllTo Prod.fst ((before ++ after).map (Spec.filter today)) rows.zipIdx =
            .ok others ∧
          kept = others.filter (fun row => !s.enabled || s.criterion.meets row.1) ∧
          applyAllTo Prod.fst ((before ++ s.turned :: after).map (Spec.filter today)) rows.zipIdx =
            .ok (others.filter fun row => !s.enabled || !s.criterion.meets row.1) := by
  refine ⟨_, Spec.applyAllTo_eq h _, List.filter_sublist, ?_, ?_, ?_, ?_, ?_⟩
  · have hplaces : (rows.zipIdx.map Prod.snd).Nodup := by
      rw [List.zipIdx_map_snd]
      exact List.nodup_range'
    exact (List.filter_sublist.map Prod.snd).nodup hplaces
  · intro row hrow
    rw [List.mem_filter, Spec.passes_iff]
    exact and_iff_right hrow
  · intro other hother
    have hproper : ∀ s ∈ other, s.criterion.Proper := fun s hs => h s (hother.mem_iff.mp hs)
    rw [Spec.applyAllTo_eq hproper]
    simp only [Spec.passes_perm hother]
  · rw [Spec.applyAllTo_eq h, List.filter_filter]
    simp only [Bool.and_self]
  · rintro before s after rfl hkeeps
    obtain ⟨hbefore, hs, hafter⟩ : (∀ t ∈ before, t.criterion.Proper) ∧
        s.criterion.Proper ∧ ∀ t ∈ after, t.criterion.Proper := by
      rwa [List.forall_mem_append, List.forall_mem_cons] at h
    have hproper : ∀ t ∈ before ++ after, t.criterion.Proper :=
      List.forall_mem_append.mpr ⟨hbefore, hafter⟩
    have hturned : ∀ t ∈ before ++ s.turned :: after, t.criterion.Proper :=
      List.forall_mem_append.mpr ⟨hbefore, List.forall_mem_cons.mpr ⟨hs, hafter⟩⟩
    refine ⟨_, Spec.applyAllTo_eq hproper _, ?_, ?_⟩
    · rw [List.filter_filter]
      simp only [Spec.passes_between, Spec.accepts, hkeeps, beq_true]
    · rw [Spec.applyAllTo_eq hturned, List.filter_filter]
      simp only [Spec.passes_between, Spec.accepts, Spec.turned, Mode.keeps, beq_false]

/-- Two sales in spring. -/
def springSales : List (Record Float) :=
  let sale (month : Nat) : Record Float := {
    customer := "Acme", item := "Steel", category := "Metal", region := "North", amount := 120.0,
    quantity := 2.0, masterId := .text "m1", date := ⟨2024, month, 2⟩ }
  [sale 4, sale 5]

/-- All that Acme bought outside one month; the filter on the region is off. -/
def exceptApril : List Spec := [
  ⟨.period (some ⟨some "april", some 2024⟩), "April 2024", .drop, true⟩,
  ⟨.named .customer "Acme", "Acme", .keep, true⟩, ⟨.named .region "South", "South", .keep, false⟩]

theorem applyAllTo_stack_exceptApril : (∀ s ∈ exceptApril, s.criterion.Proper) ∧
    ∃ kept,
      applyAllTo Prod.fst (exceptApril.map (Spec.filter .standIn)) springSales.zipIdx =
        .ok kept ∧
      kept.map Prod.snd = [1] ∧
      applyAllTo Prod.fst (exceptApril.reverse.map (Spec.filter .standIn)) springSales.zipIdx =
        .ok kept ∧
      applyAllTo Prod.fst (exceptApril.map (Spec.filter .standIn)) kept = .ok kept := by
  have hproper : ∀ s ∈ exceptApril, s.criterion.Proper := by
    have hapril : Period.Proper ⟨some "april", some 2024⟩ := by
      constructor
      · intro name hname
        cases hname
        decide
      · intro y hy
        cases hy
        decide
    refine List.forall_mem_cons.mpr ⟨?_, List.forall_mem_cons.mpr ⟨trivial, ?_⟩⟩
    · intro p hp
      cases hp
      exact hapril
    · exact List.forall_mem_singleton.mpr trivial
  obtain ⟨kept, hkept, -, -, -, hperm, htwice, -⟩ := applyAllTo_stack springSales .standIn hproper
  have hplaces : (applyAllTo Prod.fst (exceptApril.map (Spec.filter .standIn))
      springSales.zipIdx).toOption.map (·.map Prod.snd) = some [1] := by decide +kernel
  rw [hkept] at hplaces
  exact ⟨hproper, kept, hkept, Option.some.inj hplaces, hperm _ (List.reverse_perm _), htwice⟩

end Filter

end SalesDesk
