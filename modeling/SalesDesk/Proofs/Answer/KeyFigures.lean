import SalesDesk.Proofs.Answer.Columns
import SalesDesk.Proofs.Answer.Only
import SalesDesk.Proofs.Ledger.Accounts

/-!
Key figures that are computed anew from the records that a question names are the given ones if
these are all records.
-/
namespace SalesDesk

variable {α : Type}

namespace Request

/-- The same question without the names and the period that narrow the ledger. -/
def unfiltered (r : Request α) : Request α :=
  let mentions := { r.mentions with names := {}, period := none }
  { r with reading := { r.reading with mentions } }

theorem named_unfiltered [Figure α] (r : Request α) : r.unfiltered.named = .ok ⟨r.rows, []⟩ := rfl

end Request

namespace Answer

def SameTotals (x y : Except Fault (Option (Result α))) : Prop :=
  AnswersOnly (fun answer => ∃ plain, y = .ok (some plain) ∧ answer.totals = plain.totals) x

section
variable {x y x' y' : Except Fault (Option (Result α))}

theorem sameTotals_refl (x : Except Fault (Option (Result α))) : SameTotals x x where
  of_ok answer hx := by
    rintro result rfl
    exact ⟨result, hx, rfl⟩

theorem sameTotals_none : SameTotals (.ok none) y := answersOnly_none

theorem sameTotals_some {answer plain : Result α} (h : answer.totals = plain.totals) :
    SameTotals (.ok (some answer)) (.ok (some plain)) := answersOnly_some ⟨plain, rfl, h⟩

theorem sameTotals_ite {c : Prop} [Decidable c] (h : SameTotals x y) (h' : SameTotals x' y') :
    SameTotals (if c then x else x') (if c then y else y') := by
  split
  · exact h
  · exact h'

theorem sameTotals_bind {β : Type} {z : Except Fault β} {f g : β → Except Fault (Option (Result α))}
    (h : ∀ b, z = .ok b → SameTotals (f b) (g b)) : SameTotals (z >>= f) (z >>= g) := by
  cases hz : z with
  | error e => exact answersOnly_error e
  | ok b => exact h b hz

end

namespace KeyFigure

/-- A key figure as the ledger has it given. -/
def given [Figure α] (d : Dataset α) : KeyFigure → Except Fault (Cell α)
  | total .revenue => .ok (.figure d.metrics.totalRevenue)
  | total .quantity => .ok (.figure d.metrics.totalQuantity)
  | total .orders => .ok (.count d.metrics.totalOrders)
  | total .transactions => .ok (.count d.size)
  | total .customers => .ok (.count d.metrics.uniqueCustomers)
  | total .items => .ok (.count (nameCount .item d.table))
  | averageOrder => .ok (.figure d.metrics.avgOrderValue)
  | averageQuantity => do
    return .ofFigure? (← perCount? d.metrics.totalQuantity d.metrics.totalOrders)

/-- An average for each of some orders, if it can be told, is the quotient. -/
theorem givesOnly_perCount? {x : Rat} {n : Int} (h : 0 < n) :
    GivesOnly (perCount? x n) (· = some (x / Figure.ofInt n)) := by
  have hzero : (n == 0) = false := by
    rw [beq_eq_false_iff_ne]
    omega
  unfold perCount?
  rw [hzero]
  refine givesOnly_ite nofun fun _ => givesOnly_ite (fun _ => ?_) fun _ => givesOnly_error _
  exact givesOnly_ok (Figure.divide?_eq (Figure.ofInt_ne_zero h))

variable {d : Dataset Rat}

/-- Computed from all records it is the same. -/
theorem given_of_cell (h : d.Accounted) (k : KeyFigure) :
    GivesOnly (k.cell d.table) fun v => k.given d = .ok v := by
  obtain ⟨n, hcount, horders, hpos⟩ := h.orders
  cases k with
  | total t =>
    cases t with
    | revenue => exact givesOnly_ok (by rw [given, h.revenue])
    | quantity => exact givesOnly_ok (by rw [given, h.quantity])
    | orders =>
      rw [cell, Total.cell, hcount]
      exact givesOnly_ok (by rw [given, horders])
    | transactions => exact givesOnly_ok (by rw [given, h.size])
    | customers => exact givesOnly_ok (by rw [given, h.customers])
    | items => exact givesOnly_ok rfl
  | averageOrder =>
    -- The average of the ledger is there however many orders there are; this one may be refused.
    have hquotient : GivesOnly (perCount? (revenueOf d.table) n)
        (· = some (revenueOf d.table / Figure.ofInt n)) :=
      givesOnly_perCount? (Int.natCast_pos.mpr hpos)
    rw [cell, hcount, ok_bind]
    apply hquotient.bind
    rintro q rfl
    apply givesOnly_ok
    rw [given, h.average, h.revenue, horders]
    rfl
  | averageQuantity =>
    have hsame : cell d.table averageQuantity = given d averageQuantity := by
      rw [cell, given, hcount, h.quantity, horders]
      rfl
    exact ⟨fun v hv => hsame ▸ hv⟩

/-- It can be computed, unless there are more records than a machine counts. -/
theorem exists_cell (h : Tellable d.table) (k : KeyFigure) : ∃ v, k.cell d.table = .ok v := by
  obtain ⟨v, hv, -⟩ := gives_keyCell h k
  exact ⟨v, hv⟩

end KeyFigure

structure KeepsAll (r : Request Rat) : Prop where
  accounted : r.dataset.Accounted
  nonempty : r.rows ≠ []
  named : ∃ labels, r.named = .ok ⟨r.rows, labels⟩

variable {r : Request Rat}

/-- Given key figures are told as they are, or computed from all records with the same outcome. -/
theorem totals_of_figures (h : KeepsAll r) (operation : String)
    {overall : List (KeyFigure × Cell Rat)}
    (hoverall : ∀ e ∈ overall, e.1.given r.dataset = .ok e.2) (labels : Entries String) :
    GivesOnly (figures r operation overall labels) fun result =>
      result.totals = overall.map fun e => (e.1.name, e.2) := by
  have hentry : ∀ e ∈ overall, GivesOnly
      (do return (e.1.name, ← e.1.cell r.rows) : Except Fault (String × Cell Rat))
      (· = (e.1.name, e.2)) := by
    intro e he
    apply (KeyFigure.given_of_cell h.accounted e.1).bind
    intro v hv
    have heq : v = e.2 := Except.ok.inj (hv.symm.trans (hoverall e he))
    exact givesOnly_ok (by rw [heq])
  have hfound : r.rows.isEmpty = false := by simpa using h.nonempty
  obtain ⟨found, hnamed⟩ := h.named
  unfold figures
  rw [hnamed, ok_bind]
  refine givesOnly_ite (fun _ => givesOnly_ok rfl) fun _ => ?_
  rw [hfound]
  refine givesOnly_ite nofun fun _ => givesOnly_bind fun _ => ?_
  apply (givesOnly_mapM hentry).bind
  intro totals htotals
  exact givesOnly_ok htotals

theorem sameTotals_figures (h : KeepsAll r) {operation : String}
    {overall : List (KeyFigure × Cell Rat)} {labels : Entries String}
    (hoverall : ∀ e ∈ overall, e.1.given r.dataset = .ok e.2) :
    SameTotals (do return some (← figures r operation overall labels))
      (do return some (← figures r.unfiltered operation overall labels)) := by
  have htotals := totals_of_figures h operation hoverall labels
  exact GivesOnly.answered (f := id) htotals fun result hresult => ⟨_, rfl, hresult⟩

theorem sameTotals_pair (h : KeepsAll r) {operation : String} {labels : Entries String}
    {first second : KeyFigure × Cell Rat} (hfirst : first.1.given r.dataset = .ok first.2)
    (hsecond : second.1.given r.dataset = .ok second.2) :
    SameTotals (do return some (← figures r operation [first, second] labels))
      (do return some (← figures r.unfiltered operation [first, second] labels)) := by
  apply sameTotals_figures h
  simp only [List.forall_mem_cons]
  exact ⟨hfirst, hsecond, nofun⟩

theorem sameTotals_revenue (h : KeepsAll r) : SameTotals (revenue r) (revenue r.unfiltered) := by
  unfold revenue
  refine sameTotals_ite sameTotals_none <| sameTotals_ite (sameTotals_pair h rfl rfl) <|
    sameTotals_ite (sameTotals_pair h rfl rfl) <| sameTotals_ite ?_ sameTotals_none
  -- A single transaction has no totals; there is one, as all records are kept.
  have hfound : r.rows.isEmpty = false := by simpa using h.nonempty
  obtain ⟨labels, hnamed⟩ := h.named
  rw [hnamed, Request.named_unfiltered, ok_bind, ok_bind]
  simp only [hfound, Bool.and_false]
  exact sameTotals_some rfl

theorem sameTotals_orders (h : KeepsAll r) : SameTotals (orders r) (orders r.unfiltered) := by
  unfold orders
  exact sameTotals_ite sameTotals_none <|
    sameTotals_ite (sameTotals_pair h rfl rfl) sameTotals_none

/-- Top lists and leaders go over the whole ledger in any case. -/
theorem sameTotals_customers (h : KeepsAll r) :
    SameTotals (customers r) (customers r.unfiltered) := by
  unfold customers
  exact sameTotals_ite sameTotals_none <|
    sameTotals_ite (sameTotals_pair h rfl rfl) (sameTotals_refl _)

theorem sameTotals_products (h : KeepsAll r) :
    SameTotals (products r) (products r.unfiltered) := by
  unfold products
  exact sameTotals_ite sameTotals_none <| sameTotals_ite (sameTotals_refl _) <|
    sameTotals_ite (sameTotals_pair h rfl rfl) sameTotals_none

/-- The given average must be there, too, where it is computed anew. -/
theorem sameTotals_quantities (h : KeepsAll r) :
    SameTotals (quantities r) (quantities r.unfiltered) := by
  unfold quantities
  refine sameTotals_ite sameTotals_none (sameTotals_bind fun average haverage => ?_)
  have hgiven : KeyFigure.averageQuantity.given r.dataset = .ok (.ofFigure? average) := by
    rw [KeyFigure.given, haverage]
    rfl
  apply sameTotals_figures h
  simp only [List.forall_mem_cons]
  exact ⟨rfl, rfl, hgiven, nofun⟩

/-- The stages that tell key figures. -/
def keyStages : List Stage := [.revenue, .orders, .customers, .products, .quantities]

theorem sameTotals_strategy (h : KeepsAll r) {stage : Stage} (hstage : stage ∈ keyStages) :
    SameTotals (stage.strategy r) (stage.strategy r.unfiltered) := by
  have hcases : stage = .revenue ∨ stage = .orders ∨ stage = .customers ∨ stage = .products ∨
      stage = .quantities := by simpa [keyStages] using hstage
  rcases hcases with rfl | rfl | rfl | rfl | rfl
  · exact sameTotals_revenue h
  · exact sameTotals_orders h
  · exact sameTotals_customers h
  · exact sameTotals_products h
  · exact sameTotals_quantities h

end Answer

open Answer

variable {rs : List (Record Rat)} {d : Dataset Rat} {query : String} {context : Context}
  {r : Request Rat} {scope : Request.Scope Rat}

theorem Answer.keepsAll_of_make (hd : Dataset.ofRecords rs none = .ok d)
    (hids : IdColumn.Uniform (rs.map (·.masterId))) (hr : Request.make query d context = .ok r)
    (hscope : r.named = .ok scope) (hall : scope.rows = r.rows) (hempty : d.isEmpty = false) :
    KeepsAll r := by
  obtain ⟨rfl, -⟩ := Request.make_fields hr
  have hmade := Dataset.made_of_ofRecords hd
  have hrows : rs ≠ [] := by
    rw [Dataset.isEmpty, hmade.records] at hempty
    simpa using hempty
  have htable : r.rows = rs := hmade.table.trans (Dataset.tableOf_of_uniform hids)
  constructor
  · exact Dataset.accounted_of_ofRecords hrows hids hd
  · rw [htable]
    exact hrows
  · exact ⟨scope.labels, by rw [hscope, ← hall]⟩

/-- Where the names and the period of a question keep all records of a ledger with exact figures,
each key figure computed from the records that are kept is the one of the ledger's own metrics, and
the answer has the totals that it has without the names and the period. -/
theorem totals_eq_unfiltered {stage : Stage} {answer : Result Rat}
    (hd : Dataset.ofRecords rs none = .ok d) (hids : IdColumn.Uniform (rs.map (·.masterId)))
    (hr : Request.make query d context = .ok r) (hscope : r.named = .ok scope)
    (hall : scope.rows = r.rows) (hstage : stage ∈ keyStages)
    (hanswer : resolve query d context = .ok (stage, answer)) :
    (∀ k : KeyFigure, (∀ v, k.cell scope.rows = .ok v → k.given d = .ok v) ∧
      (rs.length < 0x8000000000000000 → ∃ v, k.cell scope.rows = .ok v)) ∧
    ∃ plain, stage.strategy r.unfiltered = .ok (some plain) ∧ answer.totals = plain.totals := by
  have hstages : stage ≠ .noData ∧ stage ≠ .empty := by
    constructor <;> rintro rfl <;> simp [keyStages] at hstage
  have hkeeps : KeepsAll r :=
    keepsAll_of_make hd hids hr hscope hall (isEmpty_of_resolve hanswer hstages.1)
  have hstrategy : stage.strategy r = .ok (some answer) := by
    rcases (strategy_of_resolve hr).of_ok _ hanswer with hnone | hempty | hstrategy
    · exact absurd hnone hstages.1
    · exact absurd hempty hstages.2
    · exact hstrategy
  obtain ⟨rfl, -⟩ := Request.make_fields hr
  refine ⟨fun k => ?_, (sameTotals_strategy hkeeps hstage).of_ok _ hstrategy _ rfl⟩
  have hkept : scope.rows = r.dataset.table := hall
  rw [hkept]
  refine ⟨(KeyFigure.given_of_cell hkeeps.accounted k).of_ok, fun hlength => ?_⟩
  have htable : r.dataset.table = rs :=
    (Dataset.made_of_ofRecords hd).table.trans (Dataset.tableOf_of_uniform hids)
  apply KeyFigure.exists_cell
  rw [htable]
  exact ⟨fun row hrow => (hids.plain (List.mem_map_of_mem hrow)).1, hlength⟩

/-- Three lines of two orders from one region, one of them for nothing. -/
def northSales : List (Record Rat) :=
  let sale (id : String) (amount : Rat) : Record Rat := {
    customer := "Acme", item := "Steel", category := "Metal", region := "North", amount,
    quantity := 2, masterId := .text id, date := ⟨2024, 4, 2⟩ }
  [sale "m1" 120, sale "m1" (1 / 3), sale "m2" 0]

theorem totals_eq_unfiltered_north : ∃ d r scope answer,
    Dataset.ofRecords northSales none = .ok d ∧
    IdColumn.Uniform (northSales.map (·.masterId)) ∧
    Request.make "total quantity in north" d {} = .ok r ∧ r.named = .ok scope ∧
    scope.rows = r.rows ∧ scope.labels ≠ [] ∧
    resolve "total quantity in north" d {} = .ok (.quantities, answer) ∧
    ∃ plain, Stage.quantities.strategy r.unfiltered = .ok (some plain) ∧
      answer.totals = plain.totals := by
  have hids : IdColumn.Uniform (northSales.map (·.masterId)) := by
    left
    simp only [northSales, List.map_cons, List.map_nil, List.forall_mem_cons]
    exact ⟨⟨_, rfl⟩, ⟨_, rfl⟩, ⟨_, rfl⟩, nofun⟩
  obtain ⟨d, r, hd, hr, hseen⟩ := Request.exists_of_seen "total quantity in north" northSales
    (fun r => r.rows.all (Filter.accepts r.mentions.names.toList r.mentions.period) &&
      !(Filter.labels (Filter.ofMentions r.mentions.names.toList r.mentions.period :
        List (Filter Rat))).isEmpty &&
      (resolve "total quantity in north" r.dataset {}).toOption.any (·.1 == .quantities))
    (by decide +kernel)
  simp only [Bool.and_eq_true, (Request.make_fields hr).1] at hseen
  obtain ⟨⟨hall, hlabels⟩, hstage⟩ := hseen
  have hscope : r.named = .ok
      ⟨r.rows.filter (Filter.accepts r.mentions.names.toList r.mentions.period),
        Filter.labels (Filter.ofMentions r.mentions.names.toList r.mentions.period :
          List (Filter Rat))⟩ :=
    r.filtered_eq _ fun _ => (Request.readsPeriods_of_make hr).tellable
  have hkept : r.rows.filter (Filter.accepts r.mentions.names.toList r.mentions.period) = r.rows :=
    List.filter_eq_self.mpr (List.all_eq_true.mp hall)
  obtain ⟨⟨stage, answer⟩, hanswer, hquantities⟩ := exists_of_toOption_any hstage
  obtain rfl : stage = .quantities := eq_of_beq hquantities
  exact ⟨d, r, _, answer, hd, hids, hr, hscope, hkept, by simpa using hlabels, hanswer,
    (totals_eq_unfiltered hd hids hr hscope hkept (by decide) hanswer).2⟩

end SalesDesk
