import SalesDesk.Answer.Columns

/-! Questions that no single column answers: hints, trends, summaries, names and operations. -/
namespace SalesDesk.Answer

section
variable {α : Type} [Figure α]

/-- How many entries a general ranking has if the question does not say. -/
def generalDefault : Int := 10

def compareHintText : String :=
  "I can help you compare data! Please be more specific. For example: " ++
  "\"Compare revenue by stock group\" or \"april vs may top customer sales\"."

def compareHint : Strategy α := fun r =>
  .ok (if r.asks ["compare", "vs", "versus"] then some (.words compareHintText "compare") else none)

def trends : Strategy α := fun r =>
  .ok (if r.asks ["trend", "growth", "increasing", "decreasing"] then some (trend r.rows) else none)

def summary : Strategy α := fun r =>
  if !r.asks ["summary", "overview", "tell me about"] then .ok none
  else
    let metrics := r.dataset.metrics
    .ok (some {
      kind := .summary
      operation := "summary"
      title := "Here's your sales summary"
      totals := [
        ("revenue", .figure metrics.totalRevenue), ("orders", .count metrics.totalOrders),
        ("customers", .count metrics.uniqueCustomers), ("quantity", .figure metrics.totalQuantity),
        ("avg_order_value", .figure metrics.avgOrderValue), ("records", .count r.dataset.size)]
      labels := [
        ("revenue", "Total Revenue"), ("orders", "Total Orders"), ("quantity", "Total Quantity"),
        ("records", "Transactions")] })

structure EntityKind where
  column : Column
  keywords : List String
  noun : String
  dimension : Option Dimension

def entityKinds : List EntityKind := [
  ⟨.customer, ["customer"], "Customer", some .customer⟩,
  ⟨.item, ["product", "item"], "Product", some .product⟩,
  ⟨.category, ["stock group", "category"], "Stock Group", some .stockGroup⟩,
  ⟨.region, ["region"], "Region", none⟩]

def nameFor? (r : Request α) (column : Column) : Option String :=
  (Query.nameAmong? r.query (r.dataset.vocabulary.values column)).filter (!·.isEmpty)

def rowsOf (r : Request α) (column : Column) (name : String) : List (Record α) :=
  r.rows.filter fun row => row.named column == name

def customerNote : String :=
  "Ask for \"month wise sales for [customer name]\" to see detailed breakdown!"

def firstNamed? (r : Request α) : Option (EntityKind × String) :=
  entityKinds.findSome? fun kind =>
    if r.asks kind.keywords then (nameFor? r kind.column).map fun name => (kind, name) else none

/-- The months of a named customer, if the question asks for a customer by months. -/
def customerMonths? (r : Request α) : Option String :=
  if r.asks ["customer"] && r.asks ["month", "wise"] then nameFor? r .customer else none

def entities : Strategy α := fun r => do
  match customerMonths? r with
  | some name =>
    return some (← monthWise (rowsOf r .customer name) ("Customer \"" ++ name ++ "\"")
      (some .customer))
  | none =>
    if r.asks ["month", "wise"] && !r.asks ["customer", "product", "item"] then
      return some (← allMonths r)
    else if r.asks ["top", "how many"] then return none
    else
      match firstNamed? r with
      | none => return none
      | some (kind, name) =>
        let note := if kind.column == .customer then customerNote else ""
        return some (← entitySummary (rowsOf r kind.column name)
          (kind.noun ++ " \"" ++ name ++ "\" analysis") note kind.dimension false)

def generalMeasure (r : Request α) : Measure :=
  if r.asks ["quantity", "units", "qty"] then .quantity
  else if r.asks ["order", "transaction"] then .orders
  else .revenue

def wholeNames (r : Request α) : List (Column × String) :=
  Column.all.filterMap fun c =>
    (Query.exactMatch? r.lower (r.dataset.vocabulary.values c)).map fun name => (c, name)

/-- Any operation that the question asks for, on the records it names. Comparisons choose their
periods themselves, and a plain listing is left to later answers. -/
def universal : Strategy α := fun r => do
  let operation := Query.operation r.lower
  if operation == .list then return none
  let period := if operation == .compare then none else Query.firstPeriod? r.lower
  let scope ← r.filtered (wholeNames r) period
  return some (← execute operation scope.rows {
    grouping := Query.grouping? r.lower
    measure := generalMeasure r
    limit := r.stated.getD generalDefault
    periods := Query.periods r.lower
    filters := scope.labels })

def debug : Strategy α := fun r => do
  if r.asks ["debug", "show actual", "real data"] then return some (← debugInfo r.rows)
  else return none

def helpText (records : Nat) : String :=
  "I can help you analyze your sales data! Here are the **available columns** you can ask about:

**📊 Available Data Columns:**
• **customer** - Customer names
• **item** - Product/item names
• **amount** - Revenue/sales amounts
• **quantity** - Quantities sold
• **category** - Stock groups/categories
• **region** - Sales regions
• **masterid** - Transaction IDs
• **cp_date** - Transaction dates
• **issales** - Sales flag

Your dataset contains **" ++ toString records ++ "** records.

**🎯 Query Examples:**
• **Customer:** \"top 5 customers\", \"month wise sales for <customer>\"
• **Item:** \"top 10 items by quantity\", \"top 5 customers for <item>\"
• **Amount:** \"total revenue\", \"highest amount transactions\"
• **Category:** \"top 3 stock groups\"
• **Region:** \"sales by region\"
• **Date:** \"april sales\", \"best sales date top 3 in the month of april\", \"april vs may\"

**🛠️ Debug Commands:**
• \"debug\" - Show actual data statistics

**💡 Tips:**
• Use \"top N\" for rankings (top 5, top 10)
• Include time periods (april, 2024, month wise)
• After a ranking, \"top 5\" re-runs it with a new count"

def help : Strategy α := fun r =>
  .ok (if r.asks ["help", "what can you", "how to"] then
    some (.words (helpText r.dataset.size) "help") else none)

def fallbackText : String :=
  "I'm not sure I understood that. I can help you analyze:

• **Customer Analysis:** \"<customer> sales\", \"top 5 customers\"
• **Product Analysis:** \"<product> sales\", \"top 10 products\"
• **Period Analysis:** \"April sales\", \"2024 sales\", \"april vs may\"
• **Transaction Analysis:** \"top 5 sales transactions\"
• **Overall Metrics:** \"total revenue\", \"how many orders\"
• **Month-wise Breakdown:** \"month wise sales for <customer>\"

Type \"help\" for more options!"

def fallback : Result α := .words fallbackText "fallback"

end

end SalesDesk.Answer
