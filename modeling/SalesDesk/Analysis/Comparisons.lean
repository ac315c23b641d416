import SalesDesk.Analysis.Summaries
import SalesDesk.Ledger.Filter

/-! Figures of one period beside those of another. -/
namespace SalesDesk

section
variable {α : Type} [Figure α]

def growthCell (before after : α) : Cell α := .ofFigure? (Figure.growth? before after)

def comparison (rows : List (Record α)) (periods : List Period) (filters : Entries String) :
    Except Fault (Result α) := do
  match periods with
  | first :: second :: _ =>
    if rows.isEmpty then return .noData noSelectedData "compare"
    let before ← Filter.inPeriod (some first) rows
    let after ← Filter.inPeriod (some second) rows
    let labelBefore ← first.written
    let labelAfter ← second.written
    let row (label : String) (rows : List (Record α)) : Entries (Cell α) := [
      ("label", .text label), ("revenue", .figure (revenueOf rows)),
      ("transactions", .count rows.length)]
    return {
      kind := .table
      operation := "compare"
      title := labelBefore ++ " vs " ++ labelAfter ++ " Comparison"
      columns := ["label", "revenue", "transactions"]
      rows := [row labelBefore before, row labelAfter after]
      totals := [("growth", growthCell (revenueOf before) (revenueOf after))]
      labels := [("label", "Period")]
      filters }
  | _ =>
    return .words "Please specify two periods to compare (e.g., 'april vs may')" "compare"

def topGroupsIn (all : List (Record α)) (period : Period) (grouping : Option Grouping)
    (limit : Int) (title : String) : Except Fault (Result α) := do
  let rows ← Filter.inPeriod (some period) all
  if rows.isEmpty then return noDataFor (← period.written) "ranking" all
  let result ← ranking grouping .revenue rows { limit, title } []
  return { result with
    totals := [("revenue", .figure (revenueOf rows))]
    labels := result.labels.put "revenue" ("Total Revenue for " ++ (← period.written)) }

def topDates (all : List (Record α)) (period : Option Period) (limit : Int) :
    Except Fault (Result α) := do
  match period with
  | none =>
    let title ← topTitle limit "Sales Dates by Revenue"
    groupRanking .day .revenue all { limit, title } []
  | some p =>
    let title ← topTitle limit "Sales Dates"
    topGroupsIn all p (some .day) limit (title ++ " - " ++ (← p.written))

def periodLeaders (label : String) (rows : List (Record α)) (limit : Int) :
    Except Fault (Result α) :=
  if rows.isEmpty then .ok (.noData ("No sales data found for " ++ label ++ ".") "")
  else
    groupRanking (.column .customer) .revenue rows
      { limit, title := some (label ++ " Top Customers") } []

def comparisonWithLeaders (rows : List (Record α)) (first second : Period) (limit : Int) :
    Except Fault (Result α) := do
  if rows.isEmpty then return .noData "No sales data available to compare." "compare"
  let before ← Filter.inPeriod (some first) rows
  let after ← Filter.inPeriod (some second) rows
  let labelBefore ← first.written
  let leadersBefore ← periodLeaders labelBefore before limit
  let labelAfter ← second.written
  let leadersAfter ← periodLeaders labelAfter after limit
  let summary : Result α := {
    kind := .summary
    operation := "compare"
    title := "Summary"
    totals := [
      ("revenue:0", .figure (revenueOf before)), ("revenue:1", .figure (revenueOf after)),
      ("growth", growthCell (revenueOf before) (revenueOf after))]
    labels := [("revenue:0", labelBefore ++ " Total"), ("revenue:1", labelAfter ++ " Total")] }
  return {
    kind := .composite
    operation := "compare"
    title := labelBefore ++ " vs " ++ labelAfter ++ " - Top Customer Sales Comparison"
    sections := [leadersBefore, leadersAfter, summary]
    dimension := some .customer
    count := some limit }

def trendWord (growth : Option α) : String :=
  match growth with
  | none => "not comparable"
  | some g => if Figure.less Figure.zero g then "increasing" else "decreasing"

def trend (rows : List (Record α)) : Result α :=
  if rows.isEmpty then .noData "No sales data available for trend analysis." "trend"
  else
    let ordered := rows.mergeSort fun a b => a.date.le b.date
    let half := ordered.length / 2
    let first := revenueOf (ordered.take half)
    let second := revenueOf (ordered.drop half)
    let growth := Figure.growth? first second
    { kind := .summary
      operation := "trend"
      title := "Revenue Trend"
      totals := [
        ("revenue:first", .figure first), ("revenue:second", .figure second),
        ("growth", .ofFigure? growth), ("trend", .text (trendWord growth))]
      labels := [
        ("revenue:first", "First half"), ("revenue:second", "Second half"), ("trend", "Trend")]
      note := "Comparing the first half of your data period to the second half." }

structure Plan where
  grouping : Option Grouping := none
  measure : Measure := .revenue
  limit : Int := 10
  periods : List Period := []
  filters : Entries String := []

def Plan.named? (p : Plan) : Option Grouping := p.grouping.filter fun g => !g.name.isEmpty

def execute (operation : Operation) (rows : List (Record α)) (plan : Plan) :
    Except Fault (Result α) :=
  if rows.isEmpty then .ok (.noData noSelectedData operation.name)
  else
    match operation, plan.named? with
    | .breakdown, some g => breakdown g rows plan.filters
    | .breakdown, none | .list, _ => smartSummary rows plan.filters
    | .top, _ => ranking plan.grouping plan.measure rows { limit := plan.limit } plan.filters
    | .bottom, _ =>
      ranking plan.grouping plan.measure rows { limit := plan.limit, bottom := true } plan.filters
    | .aggregate, _ => aggregate rows plan.filters
    | .average, _ => .ok (average rows plan.filters)
    | .count, g => count g rows plan.filters
    | .compare, _ => comparison rows plan.periods plan.filters

end

end SalesDesk
