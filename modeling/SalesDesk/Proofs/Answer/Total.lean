import SalesDesk.Answer.Stages
import SalesDesk.Proofs.Answer.Columns
import SalesDesk.Proofs.Query.Counts

/-!
Every question about a ledger of raw rows has an answer, whichever stage gives it, unless a run of
its digits is too long for an integer.
-/
namespace SalesDesk

variable {α : Type}

open Entries Result

theorem Request.gives_make {query : String} {d : Dataset α} (hd : d.Sound)
    (hrecords : d.records ≠ []) (context : Context)
    (hquery : ∀ run ∈ Text.runs Text.isDigit query.toList, run.length ≤ Number.maxIntegerDigits) :
    Gives (make query d context) Sound := by
  obtain ⟨count, hcount⟩ := Query.exists_count? hquery
  have hmake : ∃ r, make query d context = .ok r := by
    simp only [make, Query.read, hcount, ok_bind]
    exact ⟨_, rfl⟩
  obtain ⟨r, hr⟩ := hmake
  obtain ⟨rfl, -⟩ := make_fields hr
  exact ⟨r, hr, countsWritable_of_make hr, hd, hrecords, readsPeriods_of_make hr⟩

namespace Answer

variable {r : Request α}

theorem tells_compareHint (r : Request α) : Tells (compareHint r) := by
  unfold compareHint
  split
  · exact tells_some (.words _ _)
  · exact tells_none

theorem tells_help (r : Request α) : Tells (help r) := by
  unfold help
  split
  · exact tells_some (.words _ _)
  · exact tells_none

theorem tells_summary (h : r.Sound) : Tells (summary r) := by
  unfold summary
  refine tells_ite (fun _ => tells_none) fun _ => tells_some (.ofTotals ?_ rfl rfl)
  exact fit_cons (Cell.fits_figure (by decide) _) <| fit_cons (h.fits_orders _) <|
    fit_cons (h.fits_customers _) <| fit_cons (Cell.fits_figure (by decide) _) <|
    fit_cons (Cell.fits_figure (by decide) _) <| fit_cons (h.fits_size _) fit_nil

variable [Figure α]

theorem tells_trends (r : Request α) : Tells (trends r) := by
  unfold trends
  split
  · exact tells_some (writable_trend _)
  · exact tells_none

theorem tells_entities (h : r.Sound) : Tells (entities r) := by
  unfold entities
  split
  · exact (gives_monthWise (h.dataset.tellable.filter _) _ _).told
  · refine tells_ite (fun _ => tells_allMonths h) fun _ =>
      tells_ite (fun _ => tells_none) fun _ => ?_
    split
    · exact tells_none
    · exact (gives_entitySummary (h.dataset.tellable.filter _) _ _ _ _).told

theorem tells_universal (h : r.Sound) : Tells (universal r) := by
  unfold universal
  apply tells_orNone
  intro _
  refine (h.gives_filtered _ fun p hp => ?_).bind fun scope hscope => ?_
  · split at hp
    · cases hp
    · exact Query.tellable_of_firstPeriod? hp
  · have hlimit : Number.isWritable (r.stated.getD generalDefault) = true :=
      h.isWritable_getD (Number.isWritable_of_lt_word (by decide))
    exact (gives_execute _ hscope (fun _ => Query.isKnown_of_grouping?) hlimit
      fun _ => Query.tellable_of_mem_periods).told

theorem tells_debug (h : r.Sound) : Tells (debug r) := by
  unfold debug
  exact tells_ite (fun _ => (gives_debugInfo h.dataset.tellable).told) fun _ => tells_none

end Answer

variable [Figure α]

namespace Stage

variable {r : Request α}

open Answer

/-- No stage fails, and what it answers can be written. -/
theorem tells_strategy (h : r.Sound) (stage : Stage) : Tells (stage.strategy r) := by
  cases stage with
  | noData | empty => exact tells_none
  | structured => exact tells_structured h
  | followUp => exact tells_followUp h
  | complexTop => exact tells_complexTop h
  | masterIds => exact tells_masterIds h
  | sales => exact tells_sales h
  | days => exact tells_days h
  | months => exact tells_months h
  | revenue => exact tells_revenue h
  | orders => exact tells_orders h
  | customers => exact tells_customers h
  | products => exact tells_products h
  | quantities => exact tells_quantities h
  | stockGroups => exact tells_stockGroups h
  | regions => exact tells_regions h
  | periods => exact tells_periods h
  | compareHint => exact tells_compareHint r
  | trends => exact tells_trends r
  | summary => exact tells_summary h
  | entities => exact tells_entities h
  | universal => exact tells_universal h
  | debug => exact tells_debug h
  | help => exact tells_help r
  | fallback => exact tells_some (.words _ _)

theorem gives_resolveAmong (h : r.Sound) (stages : List Stage) :
    Gives (resolveAmong r stages) fun found => found.2.Writable := by
  induction stages with
  | nil => exact gives_ok (.words _ _)
  | cons stage rest ih =>
    apply (stage.tells_strategy h).bind
    intro answer hanswer
    cases answer with
    | none => exact ih
    | some result => exact gives_ok (hanswer result rfl)

end Stage

/-- A sound ledger has an answer to every question that can be read, and it can be written. -/
theorem gives_resolve {query : String} {d : Dataset α} (hd : d.Sound) (context : Context)
    (hquery : ∀ run ∈ Text.runs Text.isDigit query.toList, run.length ≤ Number.maxIntegerDigits) :
    Gives (resolve query d context) fun found => found.2.Writable := by
  unfold resolve
  refine gives_ite (fun _ => gives_ok (.noData _ _)) fun hempty => ?_
  refine gives_ite (fun _ => gives_ok (.words _ _)) fun _ => ?_
  have hrecords : d.records ≠ [] := by simpa [Dataset.isEmpty] using hempty
  exact (Request.gives_make hd hrecords context hquery).bind fun r hr =>
    Stage.gives_resolveAmong hr _

/-- The ledger of a raw value has an answer to every question in every context and style, unless a
run of digits in the question is too long for an integer. No list holds as many as `2 ^ 63` rows. -/
theorem exists_answer {json : Value} {rows : List Intake.Row} {today : Date} {d : Dataset Float}
    {query : String} (hjson : json.IsRaw) (hrows : Intake.rowsOf json = .ok rows)
    (hlength : rows.length < 0x8000000000000000) (hd : Dataset.ofRows rows .null today = .ok d)
    (hquery : ∀ run ∈ Text.runs Text.isDigit query.toList, run.length ≤ Number.maxIntegerDigits)
    (context : Context) (style : Style) :
    ∃ text next, answer query d context style = .ok (text, next) := by
  have hsound := Dataset.sound_of_ofRows (Intake.isRaw_rowsOf hjson hrows) hlength hd
  have hanswer : Gives (answer query d context style) fun _ => True :=
    (gives_resolve hsound context hquery).bind fun _ hresult =>
      (hresult.gives_render style).map fun _ _ => trivial
  obtain ⟨⟨text, next⟩, htext, -⟩ := hanswer
  exact ⟨text, next, htext⟩

/-- A row with the least that it needs, and another one without a number in it. -/
def fewRows : Value :=
  let row (amount : Value) : Value := .object [("customer", .text "Acme"), ("amount", amount),
    ("quantity", .int 2), ("masterid", .text "m1"), ("date", .text "2024-04-02")]
  .list [row (.text "-1,250.50"), row (.text "nan")]

theorem exists_answer_acme : ∃ rows d, fewRows.IsRaw ∧ Intake.rowsOf fewRows = .ok rows ∧
    rows.length < 0x8000000000000000 ∧ Dataset.ofRows rows .null .standIn = .ok d ∧
    (∀ run ∈ Text.runs Text.isDigit "top 3 customers of 2024".toList,
      run.length ≤ Number.maxIntegerDigits) ∧
    ∃ text next, answer "top 3 customers of 2024" d {} {} = .ok (text, next) := by
  have hjson : fewRows.IsRaw := by
    refine .list (List.forall_mem_cons.mpr ⟨?_, List.forall_mem_singleton.mpr ?_⟩)
    all_goals
      apply Value.IsRaw.object
      simp only [List.forall_mem_cons]
      exact ⟨.text _, .text _, .int _, .text _, .text _, nofun⟩
  have hquery : ∀ run ∈ Text.runs Text.isDigit "top 3 customers of 2024".toList,
    run.length ≤ Number.maxIntegerDigits := by decide +kernel
  obtain ⟨rows, hrows⟩ : ∃ rows, Intake.rowsOf fewRows = .ok rows := ⟨_, rfl⟩
  have hlength : rows.length < 0x8000000000000000 := by
    cases hrows
    decide
  obtain ⟨d, hd⟩ : ∃ d, Dataset.ofRows rows .null .standIn = .ok d := by
    have hok : (Dataset.ofRows rows .null .standIn).isOk = true := by
      cases hrows
      decide +kernel
    cases hd : Dataset.ofRows rows .null .standIn with
    | error f => simp [hd, Except.isOk, Except.toBool] at hok
    | ok d => exact ⟨d, rfl⟩
  exact ⟨rows, d, hjson, hrows, hlength, hd, hquery,
    exists_answer hjson hrows hlength hd hquery {} {}⟩

end SalesDesk
