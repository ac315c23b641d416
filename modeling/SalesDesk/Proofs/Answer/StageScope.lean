import SalesDesk.Proofs.Answer.PeriodScope
import Mathlib.Tactic.SplitIfs

/-!
Which stages go over the whole ledger although the question names a period; the answers of all
others come from the records of that period.
-/
namespace SalesDesk

variable {α : Type}

theorem Answer.namesOne_about {p : Period} {r : Request α} {e : Dataset α}
    (h : r.dataset.Agrees [] (some p) e) (column : Column) :
    namesOne (r.about e) column = namesOne r column := by
  have hvocabulary : (r.about e).dataset.vocabulary = r.dataset.vocabulary := h.vocabulary.symm
  rw [namesOne, namesOne, hvocabulary]
  rfl

variable [Figure α]

namespace Stage

/-- Does the answer of a stage to a question go over all records, whatever its period? Stages that
never answer a question with a period do not count. -/
def spansLedger (r : Request α) : Stage → Bool
  | structured => Answer.route r == .overall
  | masterIds => !r.asks ["total", "count", "how many"]
  | sales => !r.asks ["total", "count"]
  | days => !r.asks ["range", "period"]
  | customers => !r.asks ["total", "how many", "number", "unique"]
  | products => r.asks ["top", "best", "popular"]
  | months | stockGroups | regions => true
  | _ => false

/-- A stage passes or gives an answer inside the period for one request as it does for another. -/
def Carries (r s : Request α) (stage : Stage) : Prop :=
  (stage.spansLedger r = false → stage.strategy s = stage.strategy r) ∧
    (stage.strategy r = .ok none → stage.strategy s = .ok none)

theorem carries_of_eq {r s : Request α} {stage : Stage} (h : stage.strategy s = stage.strategy r) :
    Carries r s stage := ⟨fun _ => h, fun hr => h.trans hr⟩

theorem carries_of_spans {r s : Request α} {stage : Stage} (h : stage.spansLedger r = true)
    (hr : stage.strategy r ≠ .ok none) : Carries r s stage :=
  ⟨fun hs => absurd (h.symm.trans hs) (by decide), fun hnone => absurd hnone hr⟩

end Stage

namespace Answer

variable {p : Period} {r : Request α} {e : Dataset α}

open Stage

theorem carries_structured (h : r.dataset.Agrees [] (some p) e) (hp : r.AsksIn p) :
    Carries r (r.about e) .structured := by
  by_cases hroute : route r = .overall
  · apply carries_of_spans (by simp [spansLedger, hroute])
    change structured r ≠ .ok none
    rw [structured_eq_route, hroute]
    exact bind_ne_none fun _ => nofun
  · exact carries_of_eq (structured_about_of_asksIn h hp hroute)

theorem carries_followUp (h : r.dataset.Agrees [] (some p) e) (hp : r.AsksIn p) :
    Carries r (r.about e) .followUp := by
  have hdated : (r.about e).dated = r.dated := filtered_about_of_asksIn h hp _
  apply carries_of_eq
  change followUp (r.about e) = followUp r
  simp only [followUp, Request.asks_about, hdated]
  rfl

theorem carries_complexTop (h : r.dataset.Agrees [] (some p) e) (hp : r.AsksIn p) :
    Carries r (r.about e) .complexTop := by
  have hdated : (r.about e).dated = r.dated := filtered_about_of_asksIn h hp _
  apply carries_of_eq
  change complexTop (r.about e) = complexTop r
  simp only [complexTop, Request.asks_about, hdated]
  rfl

theorem carries_masterIds (h : r.dataset.Agrees [] (some p) e) :
    Carries r (r.about e) .masterIds := by
  have horders : orderCount (r.about e).rows = orderCount r.rows :=
    (orderCount_eq_of_bare h.table.bare_eq).symm
  by_cases hasked : r.asks ["masterid", "master id", "transaction id"] = true
  · by_cases hcount : r.asks ["total", "count", "how many"] = true
    · exact carries_of_eq (by simp [strategy, masterIds, hasked, hcount, horders])
    · by_cases htop : r.asks ["top", "highest"] = true
      · apply carries_of_spans (by simp [spansLedger, hcount])
        simp only [strategy, masterIds, hasked, hcount, htop]
        exact bind_ne_none fun _ => nofun
      · exact carries_of_eq (by simp [strategy, masterIds, hcount, htop])
  · exact carries_of_eq (by simp [strategy, masterIds, hasked])

theorem carries_sales (h : r.dataset.Agrees [] (some p) e) : Carries r (r.about e) .sales := by
  have hlength : ∀ keeps : Bool, ((r.about e).rows.filter (·.isSale == keeps)).length =
      (r.rows.filter (·.isSale == keeps)).length := fun keeps =>
    (length_eq_of_bare (h.table.filter (·.isSale == keeps) fun _ => rfl).bare_eq).symm
  by_cases hasked : r.asks ["issales", "is sales"] = true
  · by_cases hcount : r.asks ["total", "count"] = true
    · apply carries_of_eq
      simp [strategy, sales, hasked, hcount, Filter.applyAll_ofSale, hlength]
    · by_cases hrevenue : r.asks ["revenue"] = true
      · exact carries_of_spans (by simp [spansLedger, hcount])
          (by simp [strategy, sales, hasked, hcount, hrevenue, Filter.applyAll_ofSale])
      · apply carries_of_eq
        simp [strategy, sales, hasked, hcount, hrevenue, Filter.applyAll_ofSale]
  · exact carries_of_eq (by simp [strategy, sales, hasked])

theorem carries_days (h : r.dataset.Agrees [] (some p) e) : Carries r (r.about e) .days := by
  have hdays : (r.about e).days = r.days := Request.days_about h
  by_cases hasked : r.asks ["cp_date", "transaction date", "date"] = true
  · by_cases hrange : r.asks ["range", "period"] = true
    · exact carries_of_eq (by simp [strategy, days, hasked, hrange, hdays])
    · by_cases htop : r.asks ["top", "best"] = true
      · apply carries_of_spans (by simp [spansLedger, hrange])
        simp only [strategy, days, hasked, hrange, htop]
        exact bind_ne_none fun _ => nofun
      · exact carries_of_eq (by simp [strategy, days, hrange, htop])
  · exact carries_of_eq (by simp [strategy, days, hasked])

theorem carries_months : Carries r (r.about e) .months := by
  by_cases hasked : r.asks ["month wise", "month-wise", "monthly"] = true
  · apply carries_of_spans rfl
    simp only [strategy, months, hasked]
    exact bind_ne_none fun _ => nofun
  · exact carries_of_eq (by simp [strategy, months, hasked])

private theorem some_figures_about (h : r.dataset.Agrees [] (some p) e) (hp : r.AsksIn p)
    {operation : String} {overall other : List (KeyFigure × Cell α)} {labels : Entries String}
    (hkeys : other.map (·.1) = overall.map (·.1)) :
    (do return some (← figures (r.about e) operation other labels)) =
      (do return some (← figures r operation overall labels) :
        Except Fault (Option (Result α))) := by
  rw [figures_about h hp operation hkeys]

theorem carries_revenue (h : r.dataset.Agrees [] (some p) e) (hp : r.AsksIn p) :
    Carries r (r.about e) .revenue := by
  have hnamed : (r.about e).named = r.named := filtered_about_of_asksIn h hp _
  have hnone : ∀ subject, (noDataFor subject "ranking" (r.about e).rows : Result α) =
      noDataFor subject "ranking" r.rows := fun subject =>
    (noDataFor_eq_of_bare h.table.bare_eq subject "ranking").symm
  apply carries_of_eq
  simp only [strategy, revenue, hnamed, hnone]
  exact ite_congr rfl (fun _ => rfl) fun _ =>
    ite_congr rfl (fun _ => some_figures_about h hp (by rfl)) fun _ =>
    ite_congr rfl (fun _ => some_figures_about h hp (by rfl)) fun _ => rfl

theorem carries_orders (h : r.dataset.Agrees [] (some p) e) (hp : r.AsksIn p) :
    Carries r (r.about e) .orders := by
  apply carries_of_eq
  simp only [strategy, orders]
  exact ite_congr rfl (fun _ => rfl) fun _ =>
    ite_congr rfl (fun _ => some_figures_about h hp (by rfl)) fun _ => rfl

theorem carries_customers (h : r.dataset.Agrees [] (some p) e) (hp : r.AsksIn p) :
    Carries r (r.about e) .customers := by
  by_cases hasked : r.asks ["customer"] = true
  · by_cases htotal : r.asks ["total", "how many", "number", "unique"] = true
    · apply carries_of_eq
      simp only [strategy, customers, Request.asks_about, hasked, htotal]
      exact some_figures_about h hp (by rfl)
    · by_cases htop : r.asks ["top", "best", "biggest"] = true
      · apply carries_of_spans (by simp [spansLedger, htotal])
        simp only [strategy, customers, hasked, htotal, htop]
        simp only [Bool.not_true, Bool.false_eq_true, if_true, if_false]
        split <;> exact bind_ne_none fun _ => nofun
      · exact carries_of_eq (by simp [strategy, customers, htotal, htop])
  · exact carries_of_eq (by simp [strategy, customers, hasked])

theorem carries_products (h : r.dataset.Agrees [] (some p) e) (hp : r.AsksIn p) :
    Carries r (r.about e) .products := by
  by_cases htop : r.asks ["top", "best", "popular"] = true
  · by_cases hasked : r.asks ["product", "item"] = true
    · refine carries_of_spans htop ?_
      simp only [strategy, products, hasked, htop]
      simp only [Bool.not_true, Bool.false_eq_true, if_true, if_false]
      split <;> exact bind_ne_none fun _ => nofun
    · exact carries_of_eq (by simp [strategy, products, hasked])
  · apply carries_of_eq
    simp only [strategy, products]
    exact ite_congr rfl (fun _ => rfl) fun _ =>
      ite_congr rfl (fun htop' => absurd htop' htop) fun _ =>
      ite_congr rfl (fun _ => some_figures_about h hp (by rfl)) fun _ => rfl

theorem carries_quantities (h : r.dataset.Agrees [] (some p) e) (hp : r.AsksIn p) :
    Carries r (r.about e) .quantities := by
  apply carries_of_eq
  simp only [strategy, quantities]
  apply ite_congr rfl (fun _ => rfl)
  intro _
  -- The average over the ledger is not told, but it must exist.
  unfold perCount?
  rw [show (r.about e).dataset.metrics.totalOrders = r.dataset.metrics.totalOrders from
    h.orders.symm]
  split_ifs
  · exact some_figures_about h hp (by rfl)
  · exact some_figures_about h hp (by rfl)
  · rfl

theorem carries_stockGroups (h : r.dataset.Agrees [] (some p) e) :
    Carries r (r.about e) .stockGroups := by
  by_cases hasked : r.asks ["stock group", "category", "group"] = true
  · by_cases hnamed : namesOne r .category = true
    · have hnamed' := (namesOne_about h .category).trans hnamed
      cases htop : r.asks ["top"] with
      | false =>
        exact carries_of_eq (by simp [strategy, stockGroups, hasked, htop, hnamed, hnamed'])
      | true =>
        cases hstated : r.stated with
        | none =>
          apply carries_of_eq
          simp [strategy, stockGroups, hasked, htop, hstated, hnamed, hnamed']
        | some limit =>
          apply carries_of_spans rfl
          simp only [strategy, stockGroups, hasked, htop, hstated]
          exact bind_ne_none fun _ => nofun
    · apply carries_of_spans rfl
      simp only [strategy, stockGroups, hasked, hnamed]
      simp only [Bool.not_true, Bool.false_eq_true, if_false]
      split <;> exact bind_ne_none fun _ => nofun
  · exact carries_of_eq (by simp [strategy, stockGroups, hasked])

theorem carries_regions (h : r.dataset.Agrees [] (some p) e) : Carries r (r.about e) .regions := by
  by_cases hskip : (!r.asks ["region", "area", "location"] || namesOne r .region) = true
  · apply carries_of_eq
    simp only [strategy, regions, Request.asks_about, namesOne_about h, hskip, if_true]
  · by_cases hbreakdown : (Query.operation r.lower == .breakdown) = true
    · apply carries_of_eq
      simp only [strategy, regions, namesOne_about h]
      exact ite_congr rfl (fun _ => rfl) fun _ =>
        ite_congr rfl (fun _ => rfl) fun hnot => absurd hbreakdown hnot
    · apply carries_of_spans rfl
      simp only [strategy, regions, hskip, hbreakdown]
      exact bind_ne_none fun _ => nofun

theorem periods_about (h : r.dataset.Agrees [] (some p) e) (hp : r.AsksIn p) :
    periods (r.about e) = periods r := by
  have hfirst : Query.firstPeriod? r.lower = some p := hp.reads.period ▸ hp.period
  have hrows : (r.about e).rows.filter (fun row => p.covers row.date) =
      r.rows.filter fun row => p.covers row.date := h.table.filter_covers.symm
  have hnone : (noDataFor p.label "" (r.about e).rows : Result α) = noDataFor p.label "" r.rows :=
    (noDataFor_eq_of_bare h.table.bare_eq p.label "").symm
  simp only [periods, Request.asks_about, Request.lower_about, hfirst,
    Filter.applyAll_ofPeriod hp.tellable.known, hp.tellable.written, ok_bind, hrows, hnone]

/-- The figures of a period are told if no earlier stage has an answer. -/
theorem periods_ne_none (hp : r.AsksIn p) : periods r ≠ .ok none := by
  have hfirst : Query.firstPeriod? r.lower = some p := hp.reads.period ▸ hp.period
  have htime : (r.asks (["when", "date", "period", "month"] ++ monthNames) ||
      !(Query.years r.lower).isEmpty) = true := by
    have hmention := Query.mentions_of_firstPeriod? hfirst
    rw [Bool.or_eq_true] at hmention ⊢
    apply hmention.imp_left
    intro hmonth
    rw [Request.asks, Text.mentionsAny, List.any_append, Bool.or_eq_true]
    exact .inr hmonth
  simp only [periods, htime, hfirst, Filter.applyAll_ofPeriod hp.tellable.known,
    hp.tellable.written, ok_bind]
  simp only [Bool.not_true, Bool.false_eq_true, if_false]
  split
  · exact nofun
  · exact bind_ne_none fun _ => nofun

end Answer

namespace Stage

/-- Stages that carry an answer inside the period over to another ledger, carry the first one. -/
theorem resolveAmong_of_carries {r s : Request α} {stages : List Stage}
    (hall : ∀ stage ∈ stages, Carries r s stage) {stage : Stage} {result : Result α}
    (hr : resolveAmong r stages = .ok (stage, result)) (hspan : stage.spansLedger r = false) :
    resolveAmong s stages = .ok (stage, result) := by
  induction stages with
  | nil => exact hr
  | cons first rest ih =>
    obtain ⟨heq, hnone⟩ := hall first List.mem_cons_self
    simp only [resolveAmong] at hr ⊢
    match hfirst : first.strategy r with
    | .error f => simp [hfirst] at hr
    | .ok none =>
      rw [hfirst, ok_bind] at hr
      rw [hnone hfirst, ok_bind]
      exact ih (fun other hother => hall other (List.mem_cons_of_mem _ hother)) hr
    | .ok (some answer) =>
      obtain ⟨rfl, rfl⟩ : first = stage ∧ answer = result := by simpa [hfirst] using hr
      rw [heq hspan, hfirst]
      rfl

theorem resolveAmong_stops {r : Request α} {stage : Stage} (h : stage.strategy r ≠ .ok none)
    (before after : List Stage) :
    resolveAmong r (before ++ stage :: after) = resolveAmong r (before ++ [stage]) := by
  induction before with
  | nil =>
    simp only [List.nil_append, resolveAmong]
    match hstage : stage.strategy r with
    | .error f => rfl
    | .ok none => exact absurd hstage h
    | .ok (some answer) => rfl
  | cons first rest ih => simp only [List.cons_append, resolveAmong, ih]

end Stage

namespace Answer

variable {p : Period} {r : Request α} {e : Dataset α}

def uptoPeriods : List Stage := [
  .structured, .followUp, .complexTop, .masterIds, .sales, .days, .months, .revenue, .orders,
  .customers, .products, .quantities, .stockGroups, .regions, .periods]

theorem carries_uptoPeriods (h : r.dataset.Agrees [] (some p) e) (hp : r.AsksIn p) :
    ∀ stage ∈ uptoPeriods, stage.Carries r (r.about e) := by
  simp only [uptoPeriods, List.forall_mem_cons]
  exact ⟨carries_structured h hp, carries_followUp h hp, carries_complexTop h hp,
    carries_masterIds h, carries_sales h, carries_days h, carries_months, carries_revenue h hp,
    carries_orders h hp, carries_customers h hp, carries_products h hp, carries_quantities h hp,
    carries_stockGroups h, carries_regions h, Stage.carries_of_eq (periods_about h hp), nofun⟩

end Answer

/-- A question that names one month or year, or a month of one year, is answered from the records
of that period alone, unless the answer goes over the whole ledger. -/
theorem resolve_eq_of_agreeInside {query : String} {context : Context} {p : Period}
    {rs ss : List (Record α)} {d e : Dataset α} {r : Request α} {stage : Stage}
    {result : Result α} (hd : Dataset.ofRecords rs none = .ok d)
    (he : Dataset.ofRecords ss none = .ok e)
    (hp : Query.firstPeriod? (Text.lower query) = some p)
    (hsingle : (Query.months (Text.lower query)).length ≤ 1) (h : AgreeInside [] (some p) rs ss)
    (hr : Request.make query d context = .ok r)
    (hresult : resolve query d context = .ok (stage, result))
    (hspan : stage.spansLedger r = false) : resolve query e context = .ok (stage, result) := by
  obtain ⟨hdataset, hlower⟩ := Request.make_fields hr
  have hagrees : r.dataset.Agrees [] (some p) e := by
    rw [hdataset]
    exact Dataset.agrees_of_ofRecords h hd he
  have hreads := Request.readsPeriods_of_make hr
  have hasks : r.AsksIn p := by
    refine ⟨hreads, ?_, ?_⟩
    · rw [hreads.period, hlower, hp]
    · rw [hreads.periods, hlower]
      exact Query.periods_of_single hp hsingle
  have hempty : e.isEmpty = d.isEmpty := by
    rw [Dataset.isEmpty, Dataset.isEmpty, ← hdataset, isEmpty_eq_of_bare hagrees.records.bare_eq]
  have hmake : Request.make query e context = .ok (r.about e) :=
    Request.make_about (hdataset ▸ hagrees.vocabulary) hr
  have hstages : Stage.inOrder = [.structured, .followUp, .complexTop, .masterIds, .sales, .days,
      .months, .revenue, .orders, .customers, .products, .quantities, .stockGroups, .regions] ++
      .periods :: [.compareHint, .trends, .summary, .entities, .universal, .debug, .help] := rfl
  have hfirst : ∀ s : Request α, s.AsksIn p → Stage.resolveAmong s Stage.inOrder =
      Stage.resolveAmong s Answer.uptoPeriods := fun s hs => by
    have hpasses : Stage.periods.strategy s ≠ .ok none := Answer.periods_ne_none hs
    rw [hstages]
    exact Stage.resolveAmong_stops hpasses _ _
  unfold resolve at hresult ⊢
  rw [hempty]
  split_ifs at hresult ⊢ with hd' hblank
  · exact hresult
  · exact hresult
  · rw [hr, ok_bind, hfirst r hasks] at hresult
    rw [hmake, ok_bind, hfirst (r.about e) ⟨⟨hreads.period, hreads.periods⟩, hasks.period,
      hasks.periods⟩]
    exact Stage.resolveAmong_of_carries (Answer.carries_uptoPeriods hagrees hasks) hresult hspan

theorem resolve_eq_of_agreeInside_april : ∃ d e r stage result,
    Dataset.ofRecords (besideSteel "Acme" "Steel" 5 0) none = .ok d ∧
    Dataset.ofRecords (besideSteel "Acme" "Steel" 5 50) none = .ok e ∧
    Query.firstPeriod? (Text.lower "total revenue in April 2024") =
      some ⟨some "april", some 2024⟩ ∧
    (Query.months (Text.lower "total revenue in April 2024")).length ≤ 1 ∧
    AgreeInside [] (some ⟨some "april", some 2024⟩) (besideSteel "Acme" "Steel" 5 0)
      (besideSteel "Acme" "Steel" 5 50) ∧
    Request.make "total revenue in April 2024" d {} = .ok r ∧
    resolve "total revenue in April 2024" d {} = .ok (stage, result) ∧
    stage.spansLedger r = false ∧
    resolve "total revenue in April 2024" e {} = .ok (stage, result) := by
  obtain ⟨d, r, hd, hr, hseen⟩ := Request.exists_of_seen "total revenue in April 2024"
    (besideSteel "Acme" "Steel" 5 0)
    (fun r => match resolve "total revenue in April 2024" r.dataset {} with
      | .ok (stage, _) => !stage.spansLedger r
      | .error _ => false) (by decide +kernel)
  obtain ⟨e, -, he, -, -⟩ := Request.exists_of_seen "total revenue in April 2024"
    (besideSteel "Acme" "Steel" 5 50) (fun _ => true) (by decide +kernel)
  have hp : Query.firstPeriod? (Text.lower "total revenue in April 2024") =
    some ⟨some "april", some 2024⟩ := by decide +kernel
  have hsingle : (Query.months (Text.lower "total revenue in April 2024")).length ≤ 1 := by
    decide +kernel
  have h : AgreeInside [] (some ⟨some "april", some 2024⟩) (besideSteel "Acme" "Steel" 5 0)
      (besideSteel "Acme" "Steel" 5 50) :=
    .cons ⟨rfl, fun _ => rfl⟩ (.cons ⟨rfl, fun hmay => absurd hmay (by decide)⟩ .nil)
  rw [(Request.make_fields hr).1] at hseen
  split at hseen
  · rename_i stage result hresult
    have hspan : stage.spansLedger r = false := by simpa using hseen
    exact ⟨d, e, r, stage, result, hd, he, hp, hsingle, h, hr, hresult, hspan,
      resolve_eq_of_agreeInside hd he hp hsingle h hr hresult hspan⟩
  · cases hseen

/-- The revenue that the answer to a question begins with, if it is a summary but no comparison. -/
private def revenueAt? (query : String) (d : Dataset Float) : Option UInt64 :=
  match resolve query d {} with
  | .ok (_, a) => if a.operation != "compare" then a.revenueBits? else none
  | .error _ => none

private theorem exists_of_revenueAt? {query : String} {d : Dataset Float} {bits : UInt64}
    (h : revenueAt? query d = some bits) :
    ∃ stage a, resolve query d {} = .ok (stage, a) ∧ a.revenueBits? = some bits ∧
      a.operation ≠ "compare" := by
  unfold revenueAt? at h
  split at h
  · split_ifs at h with hoperation
    exact ⟨_, _, ‹_›, h, by simpa using hoperation⟩
  · cases h

/-- Overall information is about the whole ledger also where the question names a month: sales of
another month change the answer. -/
theorem resolve_counts_other_months : ∃ d e stage a,
    Dataset.ofRecords (besideSteel "Acme" "Steel" 5 0) none = .ok d ∧
    Dataset.ofRecords (besideSteel "Acme" "Steel" 5 50) none = .ok e ∧
    Query.firstPeriod? (Text.lower "show me sales in april") = some ⟨some "april", none⟩ ∧
    (Query.months (Text.lower "show me sales in april")).length ≤ 1 ∧
    AgreeInside [] (some ⟨some "april", none⟩) (besideSteel "Acme" "Steel" 5 0)
      (besideSteel "Acme" "Steel" 5 50) ∧
    resolve "show me sales in april" d {} = .ok (stage, a) ∧ a.operation ≠ "compare" ∧
    resolve "show me sales in april" e {} ≠ .ok (stage, a) := by
  obtain ⟨d, r, hd, hr, hseen⟩ := Request.exists_of_seen "show me sales in april"
    (besideSteel "Acme" "Steel" 5 0)
    (fun r => revenueAt? "show me sales in april" r.dataset == some (100 : Float).toBits)
    (by decide +kernel)
  obtain ⟨e, s, he, hs, hother⟩ := Request.exists_of_seen "show me sales in april"
    (besideSteel "Acme" "Steel" 5 50)
    (fun s => revenueAt? "show me sales in april" s.dataset == some (150 : Float).toBits)
    (by decide +kernel)
  rw [(Request.make_fields hr).1] at hseen
  rw [(Request.make_fields hs).1] at hother
  obtain ⟨stage, a, ha, hbits, hoperation⟩ := exists_of_revenueAt? (eq_of_beq hseen)
  obtain ⟨_, b, hb, hbits', -⟩ := exists_of_revenueAt? (eq_of_beq hother)
  refine ⟨d, e, stage, a, hd, he, by decide +kernel, by decide +kernel, ?_, ha, hoperation,
    fun heq => ?_⟩
  · exact .cons ⟨rfl, fun _ => rfl⟩ (.cons ⟨rfl, fun hmay => absurd hmay (by decide)⟩ .nil)
  · obtain ⟨rfl, rfl⟩ := Prod.mk.inj (Except.ok.inj (hb.symm.trans heq))
    rw [hbits] at hbits'
    exact absurd hbits' (by decide +kernel)

end SalesDesk
