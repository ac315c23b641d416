import SalesDesk.Answer.Request

/-! Questions for the first few: `top 5 customers`, and `top 3` after an earlier answer. -/
namespace SalesDesk.Answer

section
variable {α : Type} [Figure α]

def topList (grouping : Grouping) (noun : String) (limit : Int) (rows : List (Record α)) :
    Except Fault (Result α) := do
  let title ← topTitle limit (noun ++ " by Revenue")
  groupRanking grouping .revenue rows { limit, title, layout := .list } []

def topRecords (subject : Option String) (dimension : Dimension) (limit : Int)
    (rows : List (Record α)) : Except Fault (Result α) := do
  let title ← subject.mapM (topTitle limit)
  transactionRanking rows { limit, title, layout := .list } (some dimension)

/-- The answer to `top` with a count and a dimension, if the question names one. -/
def namedTop? (r : Request α) (limit : Int) (rows : List (Record α)) :
    Except Fault (Option (Result α)) :=
  if r.asks ["customer"] && r.asks ["transaction"] then
    some <$> topRecords "Customer Transactions" .transaction limit rows
  else if r.asks ["customer"] then some <$> topList (.column .customer) "Customers" limit rows
  else if r.asks ["product", "item"] then some <$> topList (.column .item) "Products" limit rows
  else if r.asks ["transaction"] then some <$> topRecords none .transaction limit rows
  else .ok none

/-- `top 5 customers`, inside the month and year of the question. -/
def complexTop : Strategy α := fun r => do
  match r.stated with
  | none => return none
  | some limit =>
    if !r.asks ["top"] then return none
    let scope ← r.dated
    let answer ← namedTop? r limit scope.rows
    return answer.map fun result => { result with filters := scope.labels }

def topAlong (dimension : Dimension) (limit : Int) (rows : List (Record α)) :
    Except Fault (Result α) :=
  match dimension with
  | .stockGroup => topList (.column .category) "Stock Groups" limit rows
  | .customer => topList (.column .customer) "Customers" limit rows
  | .product => topList (.column .item) "Products" limit rows
  | .transaction => topRecords none .transaction limit rows
  | .masterId => topRecords "Transactions by ID" .masterId limit rows
  | .date => topList .day "Sales Dates" limit rows
  | .isSale =>
    topRecords "Sales Transactions (issales=true)" .isSale limit (rows.filter (·.isSale))

/-- A count without a dimension of its own goes along the dimension of the last answer. -/
def followUp : Strategy α := fun r => do
  match r.stated, r.context.topic, r.context.dimension with
  | some limit, some _, some dimension =>
    if !r.asks ["top", "need", "show"] then return none
    if (Query.grouping? r.lower).isSome || r.asks ["transaction"] then return none
    let scope ← r.dated
    let result ← topAlong dimension limit scope.rows
    return some { result with filters := scope.labels }
  | _, _, _ => return none

end

end SalesDesk.Answer
