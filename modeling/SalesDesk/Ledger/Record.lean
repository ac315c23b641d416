import SalesDesk.Value.Basic

/-! Sales records: one line of a transaction each. -/
namespace SalesDesk

/-- Records with the same `masterId` make up one order. -/
structure Record (α : Type) where
  customer : String
  item : String
  category : String
  region : String
  amount : α
  quantity : α
  masterId : Value
  date : Date
  isSale : Bool := true
  country : Option String := none

inductive Column
  | customer | item | category | region
deriving DecidableEq

namespace Column

def all : List Column := [customer, item, category, region]

def name : Column → String
  | customer => "customer"
  | item => "item"
  | category => "category"
  | region => "region"

end Column

namespace Record

def named {α : Type} (r : Record α) : Column → String
  | .customer => r.customer
  | .item => r.item
  | .category => r.category
  | .region => r.region

end Record

inductive Field
  | named (column : Column)
  | amount | quantity | masterId | date | isSale | country
deriving DecidableEq

namespace Field

def all : List Field :=
  Column.all.map named ++ [amount, quantity, masterId, date, isSale, country]

def name : Field → String
  | named column => column.name
  | amount => "amount"
  | quantity => "quantity"
  | masterId => "master_id"
  | date => "transaction_date"
  | isSale => "is_sale"
  | country => "country"

def ofName? (name : String) : Option Field := all.find? (·.name == name)

end Field

namespace Record

def toFields (r : Record Float) : Entries Value := [
  (Field.name (.named .customer), .text r.customer), (Field.name (.named .item), .text r.item),
  (Field.name (.named .category), .text r.category),
  (Field.name (.named .region), .text r.region),
  (Field.amount.name, .number r.amount), (Field.quantity.name, .number r.quantity),
  (Field.masterId.name, r.masterId), (Field.date.name, .text r.date.iso),
  (Field.isSale.name, .bool r.isSale),
  (Field.country.name, (r.country.map Value.text).getD .null)]

end Record

end SalesDesk
