import SalesDesk.Answer.Request

/-! Answers that follow from the intent of a question and the names in it. -/
namespace SalesDesk.Answer

section
variable {α : Type} [Figure α]

/-- How many entries a ranking has if the question does not say. -/
def rankingDefault : Int := 5

/-- How many of the best days are told if the question does not say. -/
def datesDefault : Int := 3

def periodLeadersLimit : Int := 10

def clarificationHelp : String :=
  "I understand you want a different view. Could you please clarify:\n\n" ++
  "• For transaction-wise top sales: \"top 5 sales transactions\"\n" ++
  "• For customer-wise top sales: \"top 5 customers by sales\"\n" ++
  "• For product-wise top sales: \"top 5 products by sales\"\n" ++
  "• For period comparisons: \"april vs may top customer sales\"\n\n" ++
  "What specific data would you like to see?"

def shownName (name : Option String) : String := name.getD "None"

def hasName (column : Column) (name : Option String) (r : Record α) : Bool :=
  name == some (r.named column)

def unknownEntity (kind name : String) (values : List String) : Result α :=
  .noData ("I couldn't find any sales data for \"" ++ name ++ "\". Available " ++ kind ++
    " include: " ++ String.intercalate ", " (values.take 5) ++ "...") ""

/-- The records of one name inside the scope of a question, or the answer that there are none. -/
inductive EntityRows (α : Type) where
  | found (scope : Request.Scope α)
  | missing (answer : Result α)

def entityRows (r : Request α) (column : Column) (name : Option String) (kind : String) :
    Except Fault (EntityRows α) := do
  let scope ← r.inScope
  let rows := scope.rows.filter (hasName column name)
  let title := shownName name
  if !rows.isEmpty then return .found { scope with rows }
  else if !r.rows.any (hasName column name) then
    return .missing (unknownEntity kind title (r.dataset.vocabulary.values column))
  else
    let subject := if scope.labels.isEmpty then title else title ++ " in " ++ scope.title
    return .missing (noDataFor subject "" r.rows)

/-- The months of a customer, or all figures where information is asked for. -/
def customer : Strategy α := fun r => do
  let name := r.mentions.names.customer
  let title := shownName name
  if r.reading.modifiers.monthWise then
    match ← entityRows r .customer name "customers" with
    | .missing answer => return some answer
    | .found scope =>
      return some (← monthWise scope.rows ("Customer \"" ++ title ++ "\"") (some .customer))
  else if r.reading.intent == .information || r.reading.intent == .calculation then
    match ← entityRows r .customer name "customers" with
    | .missing answer => return some answer
    | .found scope =>
      let note := "Ask for \"month wise sales for " ++ title ++
        "\" to see detailed breakdown by month."
      let result ← entitySummary scope.rows (title ++ " Sales Information") note (some .customer)
        false
      return some { result with filters := scope.labels }
  else return none

def product : Strategy α := fun r => do
  let name := r.mentions.names.item
  let title := shownName name
  match ← entityRows r .item name "products" with
  | .missing answer => return some answer
  | .found scope =>
    if r.asks ["customer"] then
      return some (← topCustomersFor scope.rows title (r.countOr rankingDefault))
    else
      let note := "Ask for \"top 5 customers for " ++ title ++ "\" to see customer breakdown!"
      let result ← entitySummary scope.rows (title ++ " Sales Information") note (some .product)
        false
      return some { result with
        labels := result.labels.put "quantity" "Total Quantity Sold"
        filters := scope.labels }

def singlePeriod? (r : Request α) : Option Period :=
  match r.mentions.periods with
  | [p] => some p
  | _ => none

def largestSales (limit : Int) (rows : List (Record α)) : Except Fault (Result α) := do
  let title ← topTitle limit "Sales (Transaction-wise)"
  return topTransactions rows { limit, title } (some .transaction)

def scopedRanking : Strategy α := fun r => do
  let scope ← r.inScope
  let limit := r.countOr rankingDefault
  if r.asks ["sales"] && !r.asks ["customer", "product", "item", "month"] then
    let result ← largestSales limit scope.rows
    return some { result with filters := scope.labels }
  else if r.asks ["items"] && r.asks ["quantity"] then
    let title ← topTitle limit "Items by Quantity Sold"
    return some (← groupRanking (.column .item) .quantity scope.rows { limit, title } scope.labels)
  else if r.asks ["items"] && r.asks ["revenue", "sales"] then
    let title ← topTitle limit "Items by Revenue"
    return some (← groupRanking (.column .item) .revenue scope.rows { limit, title } scope.labels)
  else
    match r.mentions.count.filter (· != 0) with
    | none => return none
    | some limit =>
      if r.mentions.measure == .named .customer || r.asks ["customer"] then
        return some (← groupRanking (.column .customer) .revenue scope.rows
          { limit, layout := .list } scope.labels)
      else return none

def byRank : Strategy α := fun r => do
  match singlePeriod? r with
  | none => scopedRanking r
  | some p =>
    if r.asks ["best sales date"] && r.asks ["month"] then
      let scope ← r.ofGroups
      return some (← topDates scope.rows (some p) (r.countOr datesDefault))
    else if r.asks ["sales"] && r.asks ["month"] then
      let scope ← r.ofGroups
      let limit := r.countOr rankingDefault
      let title ← topTitle limit ("Sales - " ++ (← p.written) ++ " (Customer-wise)")
      return some (← topGroupsIn scope.rows p (some (.column .customer)) limit title)
    else scopedRanking r

def byComparison : Strategy α := fun r => do
  match r.mentions.periods with
  | first :: second :: _ =>
    let scope ← r.ofGroups
    return some (← comparisonWithLeaders scope.rows first second rankingDefault)
  | periods => throw (.tooFewPeriods periods.length)

def byPeriod : Strategy α := fun r => do
  match r.mentions.periods with
  | [] => throw .noPeriod
  | p :: _ =>
    let scope ← r.ofGroups
    return some (← topGroupsIn scope.rows p (some (.column .customer)) periodLeadersLimit
      ("Top Customer Sales - " ++ (← p.written)))

/-- After an answer about sales, `not the items` asks for transactions; all else is asked back. -/
def clarification : Strategy α := fun r => do
  let salesBefore := r.context.topic == some .sales || r.context.dimension == some .transaction
  if salesBefore && r.asks ["not"] && r.asks ["item"] then
    let scope ← r.inScope
    return some (← largestSales (r.countOr rankingDefault) scope.rows)
  else return some (.words clarificationHelp "clarification")

def overall : Strategy α := fun r => do
  let metrics := r.dataset.metrics
  let (first, last) ← r.days
  return some {
    kind := .summary
    operation := "summary"
    title := "Overall Sales Information"
    totals := [
      ("revenue", .figure metrics.totalRevenue), ("orders", .count metrics.totalOrders),
      ("quantity", .figure metrics.totalQuantity), ("customers", .count metrics.uniqueCustomers),
      ("avg_order_value", .figure metrics.avgOrderValue), ("start", .day first), ("end", .day last)]
    labels := [
      ("revenue", "Total Revenue"), ("orders", "Total Orders"), ("quantity", "Total Quantity"),
      ("start", "Data From"), ("end", "Data To")] }

def firstAnswer : List (Strategy α) → Strategy α
  | [], _ => .ok none
  | s :: rest, r => do
    match ← s r with
    | some answer => return some answer
    | none => firstAnswer rest r

def onlyIf (test : Request α → Bool) (s : Strategy α) : Strategy α := fun r =>
  if test r then s r else .ok none

/-- A named customer, a named product, a ranking, a comparison of two periods, a single period, a
clarification and overall information, in this order. -/
def structured : Strategy α := firstAnswer [
  onlyIf (fun r => Query.isGiven r.mentions.names.customer) customer,
  onlyIf (fun r => Query.isGiven r.mentions.names.item) product,
  onlyIf (fun r => r.reading.intent == .ranking) byRank,
  onlyIf (fun r => r.reading.intent == .comparison && 2 ≤ r.mentions.periods.length) byComparison,
  onlyIf (fun r => r.reading.intent == .temporalAnalysis && r.mentions.periods.length == 1)
    byPeriod,
  onlyIf (fun r => r.reading.intent == .clarification) clarification,
  onlyIf (fun r => r.reading.intent == .information && r.asks ["revenue", "sales"]) overall]

end

end SalesDesk.Answer
