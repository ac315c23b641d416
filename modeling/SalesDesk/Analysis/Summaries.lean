import SalesDesk.Analysis.Tables

/-! A handful of figures about all given records. -/
namespace SalesDesk

section
variable {α : Type} [Figure α]

def aggregate (rows : List (Record α)) (filters : Entries String) : Except Fault (Result α) := do
  if rows.isEmpty then return .noData noSelectedData "aggregate"
  return {
    kind := .summary
    operation := "aggregate"
    title := "Aggregate Analysis"
    totals := ← totals rows [.revenue, .quantity, .orders, .transactions, .customers]
    labels := [
      ("revenue", "Total Revenue"), ("quantity", "Total Quantity"), ("orders", "Total Orders"),
      ("transactions", "Total Transactions"), ("customers", "Unique Customers")]
    filters }

def average (rows : List (Record α)) (filters : Entries String) : Result α :=
  if rows.isEmpty then .noData noSelectedData "average"
  else
    let size : α := Figure.ofInt rows.length
    { kind := .summary
      operation := "average"
      title := "Average Analysis"
      totals := [
        ("avg_revenue", .ofFigure? (Figure.divide? (revenueOf rows) size)),
        ("avg_quantity", .ofFigure? (Figure.divide? (quantityOf rows) size))]
      labels := [
        ("avg_revenue", "Average Revenue per Transaction"),
        ("avg_quantity", "Average Quantity per Transaction")]
      filters }

def count (grouping : Option Grouping) (rows : List (Record α)) (filters : Entries String) :
    Except Fault (Result α) := do
  if rows.isEmpty then return .noData noSelectedData "count"
  let (n, label) ← match grouping with
    | some g => do pure (← groupCount g rows, "Count of unique " ++ Text.lower g.plural)
    | none => pure (rows.length, "Total transactions")
  return {
    kind := .summary
    operation := "count"
    totals := [("count", .count n)]
    labels := [("count", label)]
    filters }

def smartSummary (rows : List (Record α)) (filters : Entries String) :
    Except Fault (Result α) := do
  if rows.isEmpty then return .noData noSelectedData "summary"
  return {
    kind := .summary
    operation := "summary"
    title := "Summary"
    totals := ← totals rows [.revenue, .quantity, .orders, .transactions]
    filters }

/-- The figures of what the title names. An answer along a dimension is about one of its names. -/
def entitySummary (rows : List (Record α)) (title note : String) (dimension : Option Dimension)
    (withCustomers : Bool) : Except Fault (Result α) := do
  if rows.isEmpty then return .noData ("No sales data found for " ++ title ++ ".") "summary"
  let customers := if withCustomers then [Total.customers] else []
  return {
    kind := .summary
    operation := "summary"
    title
    totals := ← totals rows ([.revenue, .orders, .quantity] ++ customers ++ [.transactions])
    labels := [
      ("revenue", "Total Revenue"), ("orders", "Total Orders"), ("quantity", "Total Quantity"),
      ("customers", "Unique Customers"), ("transactions", "Total Transactions")]
    note
    dimension
    count := dimension.map fun _ => 1 }

def monthWise (rows : List (Record α)) (title : String) (dimension : Option Dimension) :
    Except Fault (Result α) := do
  if rows.isEmpty then return .noData ("No sales data found for " ++ title ++ ".") "breakdown"
  let overall ← entitySummary rows "Overall Performance" "" none false
  let monthly ← breakdown .month rows []
  return {
    kind := .composite
    operation := "breakdown"
    title := title ++ " Analysis"
    sections := [overall, monthly]
    dimension
    count := dimension.map fun _ => 1 }

def topCustomersFor (rows : List (Record α)) (product : String) (limit : Int) :
    Except Fault (Result α) := do
  if rows.isEmpty then return .noData ("No sales data found for \"" ++ product ++ "\".") "ranking"
  let title ← topTitle limit ("Customers for " ++ product)
  let leaders ← groupRanking (.column .customer) .revenue rows { limit, title } []
  let summary ← entitySummary rows (product ++ " Summary") "" none false
  return {
    kind := .composite
    operation := "ranking"
    sections := [leaders, summary]
    dimension := some .customer
    count := some limit }

def debugInfo (rows : List (Record α)) : Except Fault (Result α) := do
  match dateRange rows with
  | none => return .noData "No data available to analyze." "debug"
  | some (first, last) =>
    let found ← groups (.column .customer) rows
    let overview : Result α := {
      kind := .summary
      totals := [
        ("records", .count rows.length), ("customers", .count (nameCount .customer rows)),
        ("start", .day first), ("end", .day last)]
      labels := [
        ("records", "Total Records"), ("customers", "Unique Customers"),
        ("start", "First Transaction"), ("end", "Last Transaction")] }
    let top : Result α := {
      kind := .table
      title := "Top 5 Customers (Actual)"
      columns := ["label", "revenue", "transactions"]
      rows := ((falling Group.revenue found).take 5).map fun g => [
        ("label", g.key.cell), ("revenue", .figure g.revenue),
        ("transactions", .count g.transactions)]
      labels := [("label", "Customer")] }
    return {
      kind := .composite
      operation := "debug"
      title := "Actual Data Debug Info"
      sections := [overview, top] }

end

end SalesDesk
