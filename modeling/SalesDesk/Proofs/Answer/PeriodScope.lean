import SalesDesk.Answer.Stages
import SalesDesk.Proofs.Answer.EntityScope

/-!
The figures of an answer to a question that names a period come from the records of that period,
but for the stages that go over the whole ledger.
-/
namespace SalesDesk

variable {α : Type}

structure Request.AsksIn (r : Request α) (p : Period) : Prop where
  reads : r.ReadsPeriods
  period : r.mentions.period = some p
  periods : r.mentions.periods = [] ∨ r.mentions.periods = [p]

theorem Request.AsksIn.tellable {r : Request α} {p : Period} (h : r.AsksIn p) : p.Tellable :=
  h.reads.tellable h.period

section
variable {p : Period} {rs ss : List (Record α)}

theorem AgreeInside.filter_covers (h : AgreeInside [] (some p) rs ss) :
    rs.filter (fun r => p.covers r.date) = ss.filter fun r => p.covers r.date :=
  h.filter_eq (fun r => p.covers r.date) (fun _ => rfl) fun r hr => by
    simpa [Filter.accepts] using hr

variable [Figure α]

/-- A ranking inside a period looks at no figures outside. -/
theorem topGroupsIn_eq_of_agreeInside (h : AgreeInside [] (some p) rs ss) (hp : p.Known)
    (grouping : Option Grouping) (limit : Int) (title : String) :
    topGroupsIn rs p grouping limit title = topGroupsIn ss p grouping limit title := by
  simp only [topGroupsIn, Filter.inPeriod_some hp, h.filter_covers,
    noDataFor_eq_of_bare h.bare_eq]

end

namespace Answer

section
variable {p : Period} {r : Request α} {e : Dataset α}

theorem agreeInside_ofGroups (h : r.dataset.Agrees [] (some p) e) :
    AgreeInside [] (some p)
      (r.rows.filter (Filter.accepts (r.namesIn [.category, .region]) none))
      ((r.about e).rows.filter (Filter.accepts (r.namesIn [.category, .region]) none)) :=
  h.table.filter (Filter.accepts (r.namesIn [.category, .region]) none)
    fun row => (Filter.accepts_bare _ _ row).symm

variable [Figure α]

theorem filtered_about_of_asksIn (h : r.dataset.Agrees [] (some p) e) (hp : r.AsksIn p)
    (names : List (Column × String)) :
    (r.about e).filtered names r.mentions.period = r.filtered names r.mentions.period := by
  apply Request.filtered_about h (fun _ => hp.reads.tellable)
  intro row hrow
  rw [hp.period] at hrow
  simp only [Filter.accepts, Bool.and_eq_true] at hrow ⊢
  exact ⟨rfl, hrow.2⟩

theorem ofGroups_eq (r : Request α) :
    r.ofGroups = .ok ⟨r.rows.filter (Filter.accepts (r.namesIn [.category, .region]) none),
      Filter.labels
        (Filter.ofMentions (r.namesIn [.category, .region]) none : List (Filter α))⟩ :=
  Request.filtered_eq r _ nofun

theorem entityRows_about_of_asksIn (h : r.dataset.Agrees [] (some p) e) (hp : r.AsksIn p)
    (column : Column) (name : Option String) (kind : String) :
    entityRows (r.about e) column name kind = entityRows r column name kind := by
  apply entityRows_about h hp.reads column name kind
  intro row _ hrow
  rw [hp.period] at hrow
  simp only [Filter.accepts, Bool.and_eq_true] at hrow ⊢
  exact ⟨rfl, hrow.2⟩

theorem byRank_about_of_asksIn (h : r.dataset.Agrees [] (some p) e) (hp : r.AsksIn p) :
    byRank (r.about e) = byRank r := by
  have hscoped := scopedRanking_about (filtered_about_of_asksIn h hp _)
  have hsingle : singlePeriod? (r.about e) = singlePeriod? r := rfl
  have hnames : (r.about e).namesIn [.category, .region] = r.namesIn [.category, .region] := rfl
  unfold byRank
  rw [hsingle]
  rcases hp.periods with hnone | hone
  · simp only [singlePeriod?, hnone, hscoped]
  · simp only [singlePeriod?, hone, hscoped, ofGroups_eq, hnames, ok_bind, topDates,
      Request.asks_about, Request.countOr_about,
      topGroupsIn_eq_of_agreeInside (agreeInside_ofGroups h) hp.tellable.known]

theorem byPeriod_about_of_asksIn (h : r.dataset.Agrees [] (some p) e) (hp : r.AsksIn p) :
    byPeriod (r.about e) = byPeriod r := by
  have hnames : (r.about e).namesIn [.category, .region] = r.namesIn [.category, .region] := rfl
  unfold byPeriod
  rw [Request.mentions_about]
  rcases hp.periods with hnone | hone
  · simp only [hnone]
  · simp only [hone, ofGroups_eq, hnames, ok_bind,
      topGroupsIn_eq_of_agreeInside (agreeInside_ofGroups h) hp.tellable.known]

/-- Of the answers by intent only the overall information goes over the whole ledger. -/
theorem structured_about_of_asksIn (h : r.dataset.Agrees [] (some p) e) (hp : r.AsksIn p)
    (hroute : route r ≠ .overall) : structured (r.about e) = structured r := by
  have hsame : route (r.about e) = route r := rfl
  rw [structured_eq_route, structured_eq_route, hsame]
  cases hr : route r with
  | customer => exact customer_about (entityRows_about_of_asksIn h hp _ _ _)
  | product => exact product_about (entityRows_about_of_asksIn h hp _ _ _)
  | ranking => exact byRank_about_of_asksIn h hp
  | comparison =>
    -- There are no two periods to compare.
    rcases hp.periods with hnone | hone
    · simp only [Route.strategy, byComparison, Request.mentions_about, hnone]
    · simp only [Route.strategy, byComparison, Request.mentions_about, hone]
  | period => exact byPeriod_about_of_asksIn h hp
  | clarification => exact clarification_about (filtered_about_of_asksIn h hp _)
  | overall => exact absurd hr hroute
  | pass => rfl

/-- Which key figures are told over given records does not hang on the given ones. -/
theorem mapM_keyCell (rows : List (Record α)) (cells : List (KeyFigure × Cell α)) :
    (cells.mapM fun (k, _) => do return (k.name, ← k.cell rows)) =
      (cells.map (·.1)).mapM fun k => do return (k.name, ← k.cell rows) := by
  rw [List.mapM_map]
  rfl

/-- Key figures of a period are computed from its records; given ones are not told. -/
theorem figures_about (h : r.dataset.Agrees [] (some p) e) (hp : r.AsksIn p) (operation : String)
    {overall other : List (KeyFigure × Cell α)} (hkeys : other.map (·.1) = overall.map (·.1))
    (labels : Entries String) :
    figures (r.about e) operation other labels = figures r operation overall labels := by
  have hnamed : (r.about e).named = r.named := filtered_about_of_asksIn h hp _
  have hfilters : r.named = .ok ⟨r.rows.filter (Filter.accepts r.mentions.names.toList (some p)),
      Filter.labels (Filter.ofMentions r.mentions.names.toList (some p) : List (Filter α))⟩ := by
    rw [Request.named, Request.filtered_eq _ _ fun _ => hp.reads.tellable, hp.period]
  have hnone : ∀ subject, (noDataFor subject operation (r.about e).rows : Result α) =
      noDataFor subject operation r.rows := fun subject =>
    (noDataFor_eq_of_bare h.table.bare_eq subject operation).symm
  unfold figures
  rw [hnamed, hfilters]
  simp only [ok_bind, Filter.labels_ofMentions_some, hnone, mapM_keyCell, hkeys]
  rfl

end

end Answer

end SalesDesk
