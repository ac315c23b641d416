import SalesDesk.Analysis.Group
import SalesDesk.Value.Quotient

/-! Figures over all given records at once. -/
namespace SalesDesk

inductive Total
  | revenue | quantity | orders | transactions | customers | items
deriving DecidableEq

namespace Total

def all : List Total := [revenue, quantity, orders, transactions, customers, items]

def name : Total → String
  | revenue => "revenue"
  | quantity => "quantity"
  | orders => "orders"
  | transactions => "transactions"
  | customers => "customers"
  | items => "items"

def ofName (name : String) : Except Fault Total :=
  match all.find? (·.name == name) with
  | some t => .ok t
  | none => .error (.unknownColumn name)

end Total

section
variable {α : Type} [Figure α]

def revenueOf (rows : List (Record α)) : α := Figure.total (rows.map (·.amount))

def quantityOf (rows : List (Record α)) : α := Figure.total (rows.map (·.quantity))

/-- How many different names a column holds; the empty name is one of them. -/
def nameCount (column : Column) (rows : List (Record α)) : Nat :=
  ((rows.map (·.named column)).eraseDups).length

def Total.cell (rows : List (Record α)) : Total → Except Fault (Cell α)
  | revenue => .ok (.figure (revenueOf rows))
  | quantity => .ok (.figure (quantityOf rows))
  | orders => do return .count (← orderCount rows)
  | transactions => .ok (.count rows.length)
  | customers => .ok (.count (nameCount .customer rows))
  | items => .ok (.count (nameCount .item rows))

def totals (rows : List (Record α)) (which : List Total) : Except Fault (Entries (Cell α)) :=
  which.mapM fun t => do return (t.name, ← t.cell rows)

def Cell.ofFigure? (x : Option α) : Cell α := (x.map Cell.figure).getD .absent

def perCount? (x : α) (n : Int) : Except Fault (Option α) :=
  if n == 0 then .ok none
  else if Value.fitsWord n then .ok (Figure.divide? x (Figure.ofInt n))
  else .error .countTooLarge

end

end SalesDesk
