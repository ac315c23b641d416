import SalesDesk.Proofs.Ledger.Echo
import SalesDesk.Proofs.Outcome
import SalesDesk.Proofs.Query.Periods

/-! The filters that questions lead to never fail, and keep the records that pass all of them. -/
namespace SalesDesk

namespace Filter

variable {α : Type}

/-- Does a record have all the names, and fall into the period if there is one? -/
def accepts (names : List (Column × String)) (period : Option Period) (r : Record α) : Bool :=
  names.all (fun n => r.named n.1 == n.2) && period.all (·.covers r.date)

theorem accepts_of_period {names : List (Column × String)} {period : Option Period}
    {r : Record α} (h : accepts names period r = true) : accepts names none r = true := by
  simp only [accepts, Bool.and_eq_true] at h ⊢
  exact ⟨h.1, rfl⟩

theorem isPeriod_ofName (column : Column) (name : String) :
    (ofName column name : Filter α).isPeriod = false := by
  cases column <;> rfl

theorem inOrder_ofMentions (names : List (Column × String)) (period : Option Period) :
    inOrder (ofMentions names period : List (Filter α)) = ofMentions names period := by
  have hnames : ∀ f ∈ names.map fun n => (ofName n.1 n.2 : Filter α),
      f.isPeriod = false ∧ f.enabled = true := by
    intro f hf
    obtain ⟨n, -, rfl⟩ := List.mem_map.mp hf
    exact ⟨isPeriod_ofName n.1 n.2, rfl⟩
  have hperiods : ∀ f ∈ period.toList.map (ofPeriod : Period → Filter α),
      f.isPeriod = true ∧ f.enabled = true := by
    intro f hf
    obtain ⟨p, -, rfl⟩ := List.mem_map.mp hf
    exact ⟨rfl, rfl⟩
  have hfirst : (ofMentions names period : List (Filter α)).filter (!·.isPeriod) =
      names.map fun n => ofName n.1 n.2 := by
    rw [ofMentions, List.filter_append, List.filter_eq_self.mpr fun f hf => by simp [hnames f hf],
      List.filter_eq_nil_iff.mpr fun f hf => by simp [hperiods f hf], List.append_nil]
  have hlast : (ofMentions names period : List (Filter α)).filter (·.isPeriod) =
      period.toList.map ofPeriod := by
    rw [ofMentions, List.filter_append, List.filter_eq_nil_iff.mpr fun f hf => by
      simp [hnames f hf], List.filter_eq_self.mpr fun f hf => (hperiods f hf).1, List.nil_append]
  rw [inOrder, hfirst, hlast]
  apply List.filter_eq_self.mpr
  intro f hf
  rcases List.mem_append.mp hf with hf | hf
  · exact (hnames f hf).2
  · exact (hperiods f hf).2

theorem labels_ofMentions_some (names : List (Column × String)) (p : Period) :
    (labels (ofMentions names (some p) : List (Filter α))).isEmpty = false := by
  have hlabel : (periodField, p.label) ∈
      labels (names.map (fun n => (ofName n.1 n.2 : Filter α)) ++ [ofPeriod p]) := by
    rw [labels_concat]
    exact Entries.mem_put.mpr (.inl ⟨rfl, rfl⟩)
  exact List.isEmpty_eq_false_iff_exists_mem.mpr ⟨_, hlabel⟩

variable [Figure α]

/-- One test for all rows keeps those that pass, or those that do not. -/
theorem select_all (test : Test α) (month : Option Nat) {rows : List (Record α)} {keeps : Bool}
    (h : test.month? (IdColumn.ofIds (rows.map (·.masterId))) = .ok month) :
    (Condition.all test).select id keeps rows =
      .ok (rows.filter fun r =>
        test.holds month (IdColumn.ofIds (rows.map (·.masterId))) r == keeps) := by
  have hmonth : test.month? (IdColumn.ofIds (rows.map fun r => (id r).masterId)) = .ok month := h
  simp only [Condition.select, hmonth]
  rfl

theorem applyTo_ofName (column : Column) (name : String) (rows : List (Record α)) :
    (ofName column name).applyTo id rows = .ok (rows.filter (·.named column == name)) := by
  have hselect : (ofName column name).applyTo id rows =
      (Condition.all (.named column (some name))).select id true rows := by
    simp [applyTo, ofName, Mode.keeps]
  rw [hselect, select_all _ none rfl]
  congr 1
  apply List.filter_congr
  intro r _
  simp [Test.holds, BEq.comm]

theorem applyTo_ofSale (mode : Mode) (rows : List (Record α)) :
    (ofSale mode).applyTo id rows = .ok (rows.filter (·.isSale == mode.keeps)) := by
  have hselect : (ofSale mode).applyTo id rows =
      (Condition.all (.isSale (.bool true))).select id mode.keeps rows := by
    simp [applyTo, ofSale]
  rw [hselect, select_all _ none rfl]
  congr 1
  apply List.filter_congr
  intro r _
  have hflag : ∀ b : Bool, (Value.bool b == Value.bool true) = b := by decide
  rw [Test.holds, hflag]

theorem applyTo_ofPeriod {p : Period} (hp : p.Known) (rows : List (Record α)) :
    (ofPeriod p).applyTo id rows = .ok (rows.filter fun r => p.covers r.date) := by
  obtain ⟨month, hmonth⟩ := hp
  cases rows with
  | nil => rfl
  | cons first rest =>
    have hselect : (ofPeriod p).applyTo id (first :: rest) =
        (Condition.all (.period (some p))).select id true (first :: rest) := by
      simp [applyTo, ofPeriod, Mode.keeps]
    rw [hselect, select_all (.period (some p)) month hmonth]
    congr 1
    apply List.filter_congr
    intro r _
    simp [Test.holds, Period.covers, hmonth]

theorem inPeriod_some {p : Period} (hp : p.Known) (rows : List (Record α)) :
    inPeriod (some p) rows = .ok (rows.filter fun r => p.covers r.date) := applyTo_ofPeriod hp rows

theorem applyAll_ofPeriod {p : Period} (hp : p.Known) (rows : List (Record α)) :
    applyAll [ofPeriod p] rows = .ok (rows.filter fun r => p.covers r.date) := by
  have horder : inOrder [(ofPeriod p : Filter α)] = [ofPeriod p] := rfl
  simp [applyAll, applyAllTo, horder, applyTo_ofPeriod hp]

theorem applyAll_ofSale (mode : Mode) (rows : List (Record α)) :
    applyAll [ofSale mode] rows = .ok (rows.filter (·.isSale == mode.keeps)) := by
  have horder : inOrder [(ofSale mode : Filter α)] = [ofSale mode] := rfl
  simp [applyAll, applyAllTo, horder, applyTo_ofSale]

private theorem foldlM_ofName (names : List (Column × String)) (rows : List (Record α)) :
    (names.map fun n => (ofName n.1 n.2 : Filter α)).foldlM
        (fun rows f => f.applyTo id rows) rows =
      .ok (rows.filter fun r => names.all fun n => r.named n.1 == n.2) := by
  induction names generalizing rows with
  | nil => simp [List.filter_eq_self.mpr]
  | cons n rest ih =>
    simp only [List.map_cons, List.foldlM_cons, applyTo_ofName]
    apply (ih _).trans
    simp only [List.filter_filter, List.all_cons, Bool.and_comm]

/-- The filters of a question on rows: only an unknown month is asked for in vain. -/
theorem applyAll_ofMentions (names : List (Column × String)) {period : Option Period}
    (hp : ∀ p, period = some p → p.Known) (rows : List (Record α)) :
    applyAll (ofMentions names period) rows = .ok (rows.filter (accepts names period)) := by
  rw [applyAll, applyAllTo, inOrder_ofMentions, ofMentions, List.foldlM_append, foldlM_ofName,
    ok_bind]
  cases period with
  | none => exact congrArg Except.ok (List.filter_congr fun r _ => by simp [accepts])
  | some p =>
    simp only [Option.toList_some, List.map_cons, List.map_nil, List.foldlM_cons, List.foldlM_nil,
      applyTo_ofPeriod (hp p rfl), List.filter_filter]
    exact congrArg Except.ok (List.filter_congr fun r _ => by simp [accepts, Bool.and_comm])

end Filter

end SalesDesk
