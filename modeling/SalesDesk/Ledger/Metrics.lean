import SalesDesk.Fault
import SalesDesk.Figure
import SalesDesk.Ledger.Record
import SalesDesk.Number.Reading

/-! Key figures of a whole ledger, computed from its records or given beside them. -/
namespace SalesDesk

structure Metrics (α : Type) where
  totalRevenue : α
  totalOrders : Int
  totalQuantity : α
  uniqueCustomers : Int
  avgOrderValue : α

/-- Lists and objects cannot be told apart from each other. -/
def Value.isCountable : Value → Bool
  | .list _ | .object _ => false
  | _ => true

def distinctIds (ids : List Value) : Except Fault (List Value) :=
  match ids.find? (!·.isCountable) with
  | some v => .error (.uncountable v.kindName)
  | none => .ok ids.eraseDups

namespace Metrics

variable {α : Type} [Figure α]

def empty : Metrics α := ⟨Figure.zero, 0, Figure.zero, 0, Figure.zero⟩

/-- The key figures of records. Without an order there is no average. -/
def ofRecords (records : List (Record α)) : Except Fault (Metrics α) := do
  if records.isEmpty then return empty
  let revenue := Figure.sum (records.map (·.amount))
  let orders := (← distinctIds (records.map (·.masterId))).length
  let average := (Figure.divide? revenue (Figure.ofInt orders)).getD Figure.zero
  return {
    totalRevenue := revenue
    totalOrders := orders
    totalQuantity := Figure.sum (records.map (·.quantity))
    uniqueCustomers := (records.map (·.customer)).eraseDups.length
    avgOrderValue := if Figure.isZero average then Figure.zero else average }

def readFigure : Value → Except Fault Float
  | .bool b => .ok (if b then 1.0 else 0.0)
  | .number x => .ok x
  | .int n =>
    match Number.ofInt? n with
    | some x => .ok x
    | none => .error .tooLarge
  | .text s =>
    match Number.readFloat? s with
    | some x => .ok x
    | none => .error (.notANumber s)
  | v => .error (.notNumeric v)

/-- A given figure as an integer; doubles lose their fraction. -/
def readCount : Value → Except Fault Int
  | .bool b => .ok (if b then 1 else 0)
  | .int n => .ok n
  | .number x => if x.isFinite then .ok (Number.integerPart x) else .error (.noInteger x.isInf)
  | .text s =>
    match Number.readInt s with
    | .value n => .ok n
    | .tooLong digits => .error (.tooManyDigits (some digits))
    | .malformed => .error (.notAnInteger s)
  | v => .error (.notNumeric v)

/-- The first spelling of a given figure that is there; what is not there or null is zero. -/
def pick (fields : Entries Value) (name other : String) : Value :=
  match (Value.field? name fields).or (Value.field? other fields) with
  | none | some .null => .int 0
  | some v => v

def ofValue : Value → Except Fault (Metrics Float)
  | .object fields => do
    let totalRevenue ← readFigure (pick fields "total_revenue" "totalRevenue")
    let totalOrders ← readCount (pick fields "total_orders" "totalOrders")
    let totalQuantity ← readFigure (pick fields "total_quantity" "totalQuantity")
    let uniqueCustomers ← readCount (pick fields "unique_customers" "uniqueCustomers")
    let avgOrderValue ← readFigure (pick fields "avg_order_value" "avgOrderValue")
    return { totalRevenue, totalOrders, totalQuantity, uniqueCustomers, avgOrderValue }
  | v => .error (.metricsNotAnObject v)

def toFields (m : Metrics Float) : Entries Value := [
  ("total_revenue", .number m.totalRevenue), ("total_orders", .int m.totalOrders),
  ("total_quantity", .number m.totalQuantity), ("unique_customers", .int m.uniqueCustomers),
  ("avg_order_value", .number m.avgOrderValue)]

end Metrics

end SalesDesk
