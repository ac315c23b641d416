import SalesDesk.Analysis.Totals
import SalesDesk.Value.Written

/-! Tables of groups and of single transactions. -/
namespace SalesDesk

def noSelectedData : String := "No sales data found for the selected filters."

section
variable {α : Type} [Figure α]

/-- There is no data for a subject; the days of all data are told if there are any. -/
def noDataFor (subject operation : String) (all : List (Record α)) : Result α :=
  let result := Result.noData ("No sales data found for " ++ subject ++ ".") operation
  match dateRange all with
  | none => result
  | some (first, last) => { result with totals := [("start", .day first), ("end", .day last)] }

/-- All figures of each group. Months follow the calendar, other groups fall by revenue. -/
def breakdown (grouping : Grouping) (rows : List (Record α)) (filters : Entries String) :
    Except Fault (Result α) := do
  if rows.isEmpty then return .noData noSelectedData "breakdown"
  let found ← groups grouping rows
  let ordered :=
    if grouping == .month then found.mergeSort fun a b => a.key.monthLe b.key
    else falling Group.revenue found
  return {
    kind := .table
    operation := "breakdown"
    title :=
      if grouping == .month then "Month-wise Breakdown" else "Breakdown by " ++ grouping.header
    columns := ["label", "revenue", "orders", "quantity", "transactions"]
    rows := ordered.map fun g => [
      ("label", g.key.cell), ("revenue", .figure g.revenue), ("orders", .count g.orders),
      ("quantity", .figure g.quantity), ("transactions", .count g.transactions)]
    labels := [("label", grouping.header)]
    filters
    dimension := grouping.dimension }

structure RankingStyle where
  limit : Int := 5
  bottom : Bool := false
  title : Option String := none
  layout : Layout := .table

namespace RankingStyle

def rangeText (s : RankingStyle) : String :=
  (if s.bottom then "Bottom " else "Top ") ++ toString s.limit

def range (s : RankingStyle) : Except Fault String := Number.written s.limit s.rangeText

/-- The title, if one is given that is not empty. -/
def ownTitle? (s : RankingStyle) : Option String := s.title.filter (!·.isEmpty)

end RankingStyle

/-- A title of its own for a ranking, `Top 5 Customers`. -/
def topTitle (limit : Int) (subject : String) : Except Fault String :=
  (· ++ " " ++ subject) <$> RankingStyle.range { limit }

def topTransactions (rows : List (Record α)) (style : RankingStyle)
    (dimension : Option Dimension) : Result α :=
  if rows.isEmpty then .noData "No transactions found." "ranking"
  else {
    kind := .table
    operation := "ranking"
    title := style.ownTitle?.getD (style.rangeText ++ " Transactions")
    columns := ["customer", "item", "amount", "date"]
    rows := (upTo style.limit (ranked Record.amount style.bottom rows)).map fun r => [
      ("customer", .text r.customer),
      ("item", .text (if r.item.isEmpty then unknownName else r.item)),
      ("amount", .figure r.amount), ("date", .day r.date)]
    layout := style.layout
    ranked := true
    dimension
    count := some style.limit }

/-- Single records ranked by amount. Without a title of its own a ranking is named by its range. -/
def transactionRanking (rows : List (Record α)) (style : RankingStyle)
    (dimension : Option Dimension) : Except Fault (Result α) :=
  let result := topTransactions rows style dimension
  if rows.isEmpty || style.ownTitle?.isSome then .ok result else Number.written style.limit result

def RankingStyle.groupTitle (style : RankingStyle) (grouping : Grouping) (measure : Measure) :
    Except Fault String :=
  match style.title with
  | some title => .ok title
  | none => (· ++ " " ++ grouping.plural ++ " by " ++ measure.title) <$> style.range

def groupRanking (grouping : Grouping) (measure : Measure) (rows : List (Record α))
    (style : RankingStyle) (filters : Entries String) : Except Fault (Result α) := do
  if rows.isEmpty then return .noData noSelectedData "ranking"
  let found ← groups grouping rows
  return {
    kind := .table
    operation := "ranking"
    title := ← style.groupTitle grouping measure
    columns := ["label", measure.name]
    rows := (upTo style.limit (ranked (Group.measured measure) style.bottom found)).map fun g =>
      [("label", g.key.cell), (measure.name, g.cell measure)]
    labels := [("label", grouping.header)]
    filters
    layout := style.layout
    ranked := true
    dimension := grouping.dimension
    count := some style.limit }

/-- A ranking of groups, or of single records if there is no grouping. -/
def ranking (grouping : Option Grouping) (measure : Measure) (rows : List (Record α))
    (style : RankingStyle) (filters : Entries String) : Except Fault (Result α) :=
  match grouping with
  | some g => groupRanking g measure rows style filters
  | none => do
    let result ← transactionRanking rows { style with title := none } (some .transaction)
    return { result with filters }

def leader? (grouping : Grouping) (rows : List (Record α)) :
    Except Fault (Option (GroupKey × α × Nat)) := do
  if rows.isEmpty then return none
  let ordered := falling Group.revenue (← groups grouping rows)
  return ordered.head?.map fun g => (g.key, g.revenue, ordered.length)

end

end SalesDesk
