import SalesDesk.Calendar.Period
import SalesDesk.Ledger.Dataset
import SalesDesk.Limit
import SalesDesk.Query.Rules
import SalesDesk.Report.Result

/-! Records put together by a name, a month or a day, with the figures of each group. -/
namespace SalesDesk

namespace Grouping

def header : Grouping → String
  | column .customer => "Customer"
  | column .item => "Item"
  | column .category => "Stock Group"
  | column .region => "Region"
  | month => "Month"
  | day => "Date"
  | g => g.name

def plural : Grouping → String
  | column .customer => "Customers"
  | column .item => "Products"
  | column .category => "Stock Groups"
  | column .region => "Regions"
  | month => "Months"
  | day => "Sales Dates"
  | g => g.name

def dimension : Grouping → Option Dimension
  | column .customer => some .customer
  | column .item => some .product
  | column .category => some .stockGroup
  | day => some .date
  | _ => none

end Grouping

def unknownName : String := "Unknown"

inductive GroupKey
  | name (s : String)
  | month (year month : Nat)
  | day (d : Date)
deriving DecidableEq

namespace GroupKey

def cell {α : Type} : GroupKey → Cell α
  | name s => .text s
  | month year number => .text (monthTitle number ++ " " ++ toString year)
  | day d => .day d

/-- Months by the calendar; other keys have no order of their own. -/
def monthLe : GroupKey → GroupKey → Bool
  | month y m, month y' m' => y < y' || y == y' && m ≤ m'
  | _, _ => true

end GroupKey

section
variable {α : Type} [Figure α]

/-- A figure as a text; what is no number has none. -/
def figureText (x : α) : String := if Figure.isMissing x then "" else Figure.text x

/-- The text of a field; what the field lacks is empty. -/
def Record.fieldText (r : Record α) : Field → String
  | .named c => r.named c
  | .amount => figureText r.amount
  | .quantity => figureText r.quantity
  | .masterId => if r.masterId.isMissingId then "" else r.masterId.shown
  | .date => r.date.iso
  | .isSale => (Value.bool r.isSale).shown
  | .country => r.country.getD ""

def GroupKey.ofName (s : String) : GroupKey := .name (if s.isEmpty then unknownName else s)

/-- The group that each of the records belongs to. In a column of moments an id that is missing
belongs to none. -/
def Grouping.key (rows : List (Record α)) : Grouping → Except Fault (Record α → Option GroupKey)
  | month => .ok fun r => some (.month r.date.year r.date.month)
  | day => .ok fun r => some (.day r.date)
  | field f =>
    let ids := rows.map (·.masterId)
    if f == .masterId && IdColumn.ofIds ids == .moments then
      let text := IdColumn.momentText ids
      .ok fun r =>
        match r.masterId with
        | .moment m => some (.ofName (text m))
        | _ => none
    else .ok fun r => some (.ofName (r.fieldText f))
  | other name => .error (.unknownColumn name)

end

structure Group (α : Type) where
  key : GroupKey
  revenue : α
  quantity : α
  orders : Nat
  transactions : Nat

inductive Measure
  | revenue | quantity | orders
deriving DecidableEq

namespace Measure

def name : Measure → String
  | revenue => "revenue"
  | quantity => "quantity"
  | orders => "orders"

def title : Measure → String
  | revenue => "Revenue"
  | quantity => "Quantity"
  | orders => "Orders"

/-- The measure that goes with a field; every field without one is measured by revenue. -/
def ofFieldName (name : String) : Measure :=
  if name == Field.quantity.name then quantity
  else if name == Field.masterId.name then orders
  else revenue

end Measure

section
variable {α : Type} [Figure α]

/-- How many orders the records make up. An id that is missing belongs to none. -/
def orderCount (rows : List (Record α)) : Except Fault Nat := do
  let ids ← distinctIds ((rows.map (·.masterId)).filter (!·.isMissingId))
  return ids.length

namespace Group

def ofRows (addAmounts addQuantities : List α → α) (key : GroupKey) (rows : List (Record α)) :
    Except Fault (Group α) := do
  return {
    key
    revenue := addAmounts (rows.map (·.amount))
    quantity := addQuantities (rows.map (·.quantity))
    orders := ← orderCount rows
    transactions := rows.length }

def measured (m : Measure) (g : Group α) : α :=
  match m with
  | .revenue => g.revenue
  | .quantity => g.quantity
  | .orders => Figure.ofInt g.orders

def cell (m : Measure) (g : Group α) : Cell α :=
  match m with
  | .revenue => .figure g.revenue
  | .quantity => .figure g.quantity
  | .orders => .count g.orders

end Group

def standTogether (keys : List GroupKey) : Bool :=
  (keys.splitBy (· == ·)).length == keys.eraseDups.length

def columnSum (together : Bool) (column : List α) : List α → α :=
  if together && !column.any Figure.isMissing then Figure.runSum else Figure.scatteredSum

def keyed (grouping : Grouping) (rows : List (Record α)) :
    Except Fault (List (GroupKey × Record α)) := do
  let key ← grouping.key rows
  return rows.filterMap fun r => (key r).map (·, r)

def groups (grouping : Grouping) (rows : List (Record α)) : Except Fault (List (Group α)) := do
  let found ← keyed grouping rows
  let keys := found.map (·.1)
  let together := standTogether keys
  let addAmounts := columnSum together (rows.map (·.amount))
  let addQuantities := columnSum together (rows.map (·.quantity))
  keys.eraseDups.mapM fun k =>
    Group.ofRows addAmounts addQuantities k ((found.filter (·.1 == k)).map (·.2))

def groupCount (grouping : Grouping) (rows : List (Record α)) : Except Fault Nat := do
  return ((← keyed grouping rows).map (·.1)).eraseDups.length

/-- From the largest figure down; equal ones keep their order. -/
def falling {β : Type} (figure : β → α) (xs : List β) : List β :=
  xs.mergeSort fun a b => Figure.falls (figure a) (figure b)

/-- From the largest figure down, or exactly the other way round. -/
def ranked {β : Type} (figure : β → α) (bottom : Bool) (xs : List β) : List β :=
  if bottom then (falling figure xs).reverse else falling figure xs

end

end SalesDesk
