import SalesDesk.Text.Casing
import SalesDesk.Text.Search
import SalesDesk.Value.Basic

/-! What a conversation remembers: the dimension of its last answer. -/
namespace SalesDesk

inductive Dimension
  | customer | product | stockGroup | transaction | date | masterId | isSale
deriving DecidableEq

namespace Dimension

def all : List Dimension := [customer, product, stockGroup, transaction, date, masterId, isSale]

def name : Dimension → String
  | customer => "customer"
  | product => "product"
  | stockGroup => "stockgroup"
  | transaction => "transaction"
  | date => "date"
  | masterId => "masterid"
  | isSale => "issales"

end Dimension

inductive Topic
  | customer | product | stockGroup | sales | date | transaction
deriving DecidableEq

namespace Topic

def all : List Topic := [customer, product, stockGroup, sales, date, transaction]

def name : Topic → String
  | customer => "customer"
  | product => "product"
  | stockGroup => "stockgroup"
  | sales => "sales"
  | date => "date"
  | transaction => "transaction"

end Topic

def Dimension.topic : Dimension → Topic
  | customer => .customer
  | product => .product
  | stockGroup => .stockGroup
  | transaction => .sales
  | date => .date
  | masterId => .transaction
  | isSale => .sales

structure Context where
  topic : Option Topic := none
  dimension : Option Dimension := none
  count : Option Int := none
deriving DecidableEq

namespace Context

def ofDimension (dimension : Dimension) (count : Option Int) : Context :=
  ⟨some dimension.topic, some dimension, count⟩

def toFields (c : Context) : Entries Value := [
  ("lastTopic", (c.topic.map fun t => Value.text t.name).getD .null),
  ("lastDataType", (c.dimension.map fun d => Value.text d.name).getD .null),
  ("lastCount", (c.count.map Value.int).getD .null)]

def hasDimension (c : Context) : Bool := c.topic.isSome && c.dimension.isSome

/-- The context after an answer in free text, as far as the words of the question show it. The
count is kept. -/
def afterFreeText (query : String) (c : Context) : Context :=
  let lower := Text.lower query
  let products := Text.mentionsAny lower ["product", "item"]
  let customers := Text.mentions lower "customer"
  if Text.mentions lower "sales" && !customers && !products then
    { c with topic := some .sales, dimension := some .transaction }
  else if customers then { c with topic := some .customer, dimension := some .customer }
  else if products then { c with topic := some .product, dimension := some .product }
  else c

end Context

end SalesDesk
