import SalesDesk.Answer.TopLists

/-! Questions about one column of the ledger: its key figures, its leader, its days. -/
namespace SalesDesk.Answer

section
variable {α : Type} [Figure α]

/-- How many entries a list about a column has if the question does not say. -/
def columnDefault : Int := 5

inductive KeyFigure
  | total (t : Total)
  | averageOrder
  | averageQuantity

namespace KeyFigure

def name : KeyFigure → String
  | total t => t.name
  | averageOrder => "avg_order_value"
  | averageQuantity => "avg_quantity"

def cell (rows : List (Record α)) : KeyFigure → Except Fault (Cell α)
  | total t => t.cell rows
  | averageOrder => do return .ofFigure? (← perCount? (revenueOf rows) (← orderCount rows))
  | averageQuantity => do return .ofFigure? (← perCount? (quantityOf rows) (← orderCount rows))

end KeyFigure

/-- Key figures: the given ones for a question without filters, else the same figures over the
records that remain. -/
def figures (r : Request α) (operation : String) (overall : List (KeyFigure × Cell α))
    (labels : Entries String) : Except Fault (Result α) := do
  let scope ← r.named
  if scope.labels.isEmpty then
    return {
      kind := .summary
      operation
      totals := overall.map fun (k, v) => (k.name, v)
      labels }
  else if scope.rows.isEmpty then return noDataFor scope.title operation r.rows
  else
    let _ ← orderCount scope.rows
    let totals ← overall.mapM fun (k, _) => do return (k.name, ← k.cell scope.rows)
    return { kind := .summary, operation, totals, labels, filters := scope.labels }

def leaderAnswer (column : Column) (noun : String) (dimension : Option Dimension) (note : String)
    (withCount : Bool) (rows : List (Record α)) : Except Fault (Result α) := do
  match ← leader? (.column column) rows with
  | none => return .noData "No sales data available." ""
  | some (key, revenue, groups) =>
    let best : String := match key with
      | .name s => s
      | _ => ""
    let revenue : Entries (Cell α) := [("revenue", .figure revenue)]
    return {
      kind := .summary
      operation := "ranking"
      title := "Top " ++ noun ++ ": \"" ++ best ++ "\""
      totals := if withCount then ("groups", .count groups) :: revenue else revenue
      labels :=
        if withCount then [("groups", "Number of " ++ Text.lower noun ++ "s")] else []
      note
      dimension
      count := dimension.map fun _ => 1 }

def masterIds : Strategy α := fun r => do
  if !r.asks ["masterid", "master id", "transaction id"] then return none
  else if r.asks ["total", "count", "how many"] then
    return some {
      kind := .summary
      operation := "count"
      totals := [("count", .count (← orderCount r.rows))]
      labels := [("count", "Total unique transactions (masterid)")]
      dimension := some .masterId }
  else if r.asks ["top", "highest"] then
    let limit := r.stated.getD columnDefault
    return some (← topRecords "Transactions by ID" .masterId limit r.rows)
  else return none

def sales : Strategy α := fun r => do
  if !r.asks ["issales", "is sales"] then return none
  let sales ← Filter.applyAll [Filter.ofSale .keep] r.rows
  let others ← Filter.applyAll [Filter.ofSale .drop] r.rows
  let answer (totals : Entries (Cell α)) (labels : Entries String) : Option (Result α) :=
    some { kind := .summary, operation := "count", totals, labels, dimension := some .isSale }
  if r.asks ["total", "count"] then
    return answer
      [("count:sales", .count sales.length), ("count:other", .count others.length)]
      [("count:sales", "Sales transactions (issales=true)"),
        ("count:other", "Non-sales transactions (issales=false)")]
  else if r.asks ["revenue"] then
    return answer
      [("revenue:sales", .figure (revenueOf sales)), ("revenue:other", .figure (revenueOf others))]
      [("revenue:sales", "Sales revenue (issales=true)"),
        ("revenue:other", "Non-sales revenue (issales=false)")]
  else return none

def days : Strategy α := fun r => do
  if !r.asks ["cp_date", "transaction date", "date"] then return none
  else if r.asks ["range", "period"] then
    let (first, last) ← r.days
    return some {
      kind := .summary
      operation := "summary"
      title := "Date range"
      totals := [("start", .day first), ("end", .day last)] }
  else if r.asks ["top", "best"] then
    return some (← topList .day "Sales Dates" (r.stated.getD columnDefault) r.rows)
  else return none

def allMonths (r : Request α) : Except Fault (Result α) := do
  return { ← breakdown .month r.rows [] with title := "Month-wise Sales Breakdown" }

def months : Strategy α := fun r => do
  if r.asks ["month wise", "month-wise", "monthly"] then return some (← allMonths r)
  else return none

def revenue : Strategy α := fun r => do
  if !r.asks ["revenue", "sales", "income"] then return none
  let metrics := r.dataset.metrics
  if r.asks ["total", "how much"] then
    return some (← figures r "aggregate"
      [(.total .revenue, .figure metrics.totalRevenue),
        (.total .transactions, .count r.dataset.size)]
      [("revenue", "Total Revenue"), ("transactions", "Calculated from transactions")])
  else if r.asks ["average", "avg"] then
    return some (← figures r "average"
      [(.averageOrder, .figure metrics.avgOrderValue), (.total .orders, .count metrics.totalOrders)]
      [("orders", "Based on orders")])
  else if r.asks ["highest", "top", "best"] then
    let scope ← r.named
    if !scope.labels.isEmpty && scope.rows.isEmpty then
      return some (noDataFor scope.title "ranking" r.rows)
    let result := topTransactions scope.rows
      { limit := 1, title := "Highest Single Transaction", layout := .list } (some .transaction)
    return some { result with filters := scope.labels }
  else return none

def orders : Strategy α := fun r => do
  let metrics := r.dataset.metrics
  if !r.asks ["order"] || r.asks ["average"] then return none
  else if r.asks ["total", "how many", "number"] then
    return some (← figures r "count"
      [(.total .orders, .count metrics.totalOrders),
        (.total .revenue, .figure metrics.totalRevenue)]
      [("orders", "Total Orders"), ("revenue", "Revenue from these orders")])
  else return none

def customers : Strategy α := fun r => do
  let metrics := r.dataset.metrics
  if !r.asks ["customer"] then return none
  else if r.asks ["total", "how many", "number", "unique"] then
    return some (← figures r "count"
      [(.total .customers, .count metrics.uniqueCustomers),
        (.total .revenue, .figure metrics.totalRevenue)]
      [("revenue", "Total revenue from all customers")])
  else if r.asks ["top", "best", "biggest"] then
    match r.asks ["top"], r.stated with
    | true, some limit => return some (← topList (.column .customer) "Customers" limit r.rows)
    | _, _ =>
      return some (← leaderAnswer .customer "Customer" (some .customer)
        "Ask me for \"top 3 customers\" to see more!" false r.rows)
  else return none

def products : Strategy α := fun r => do
  if !r.asks ["product", "item"] then return none
  else if r.asks ["top", "best", "popular"] then
    match r.asks ["top"], r.stated with
    | true, some limit => return some (← topList (.column .item) "Products" limit r.rows)
    | _, _ =>
      return some (← leaderAnswer .item "Selling Item" (some .product)
        "Ask me for \"top 3 products\" to see more!" false r.rows)
  else if r.asks ["how many", "total", "number"] then
    return some (← figures r "count"
      [(.total .items, .count (nameCount .item r.rows)),
        (.total .quantity, .figure r.dataset.metrics.totalQuantity)]
      [("items", "Unique items"), ("quantity", "Total quantity sold")])
  else return none

def quantities : Strategy α := fun r => do
  if !r.asks ["quantity", "units", "pieces"] then return none
  let metrics := r.dataset.metrics
  let average ← perCount? metrics.totalQuantity metrics.totalOrders
  return some (← figures r "aggregate"
    [(.total .quantity, .figure metrics.totalQuantity),
      (.total .orders, .count metrics.totalOrders),
      (.averageQuantity, .ofFigure? average)]
    [("quantity", "Total quantity sold"), ("orders", "Across orders"),
      ("avg_quantity", "Average per order")])

def namesOne (r : Request α) (column : Column) : Bool :=
  (Query.exactMatch? r.lower (r.dataset.vocabulary.values column)).isSome

def stockGroups : Strategy α := fun r => do
  if !r.asks ["stock group", "category", "group"] then return none
  match r.asks ["top"], r.stated with
  | true, some limit => return some (← topList (.column .category) "Stock Groups" limit r.rows)
  | _, _ =>
    if namesOne r .category then return none
    else
      return some (← leaderAnswer .category "Stock Group" (some .stockGroup)
        "Ask me for \"top 3\" or \"top 5\" to see more!" true r.rows)

def regions : Strategy α := fun r => do
  if !r.asks ["region", "area", "location"] || namesOne r .region then return none
  else if Query.operation r.lower == .breakdown then return none
  else return some (← leaderAnswer .region "Region" none "" true r.rows)

/-- The figures of a named month or year, otherwise the days that the ledger covers. -/
def periods : Strategy α := fun r => do
  let mentionsTime := r.asks (["when", "date", "period", "month"] ++ monthNames) ||
    !(Query.years r.lower).isEmpty
  if !mentionsTime then return none
  match Query.firstPeriod? r.lower with
  | some p =>
    let rows ← Filter.applyAll [Filter.ofPeriod p] r.rows
    let label ← p.written
    if rows.isEmpty then return some (noDataFor label "" r.rows)
    else return some (← entitySummary rows ("Sales data for " ++ label) "" none true)
  | none =>
    let (first, last) ← r.days
    let months : Int := ((last.toOrdinal : Int) - first.toOrdinal) / 30
    return some {
      kind := .summary
      operation := "summary"
      title := "Data Period"
      totals := [
        ("start", .day first), ("end", .day last), ("months", .count months),
        ("revenue", .figure r.dataset.metrics.totalRevenue)]
      labels := [("months", "Approximate months"), ("revenue", "Revenue in this period")] }

end

end SalesDesk.Answer
