import SalesDesk.Ledger.IdColumn
import SalesDesk.Ledger.Intake
import SalesDesk.Ledger.Metrics
import SalesDesk.Ledger.Vocabulary

/-! A ledger with everything that is derived from its records once. -/
namespace SalesDesk

/-- The records, and the same records as the rows of a table, where the ids stand as their column
holds them. -/
structure Dataset (α : Type) where
  records : List (Record α)
  table : List (Record α)
  vocabulary : Vocabulary
  metrics : Metrics α

namespace Dataset

variable {α : Type} [Figure α]

def tableOf (records : List (Record α)) : List (Record α) :=
  let column := IdColumn.ofIds (records.map (·.masterId))
  records.map fun r => { r with masterId := column.entry r.masterId }

/-- The ledger of records; key figures are computed if they are not given. -/
def ofRecords (records : List (Record α)) (metrics : Option (Metrics α)) :
    Except Fault (Dataset α) := do
  let metrics ← match metrics with
    | some m => pure m
    | none => Metrics.ofRecords records
  return { records, table := tableOf records, vocabulary := Vocabulary.ofRecords records, metrics }

def ofRows (rows : List Intake.Row) (metrics : Value) (today : Date := .standIn) :
    Except Fault (Dataset Float) := do
  let metrics ← match metrics with
    | .null => pure none
    | v => some <$> Metrics.ofValue v
  let records ← Intake.readRows rows today
  ofRecords records metrics

def isEmpty (d : Dataset α) : Bool := d.records.isEmpty

def size (d : Dataset α) : Nat := d.records.length

end Dataset

def dateRange {α : Type} : List (Record α) → Option (Date × Date)
  | [] => none
  | r :: rest =>
    some (rest.foldl (fun d r => d.earlier r.date) r.date,
      rest.foldl (fun d r => d.later r.date) r.date)

end SalesDesk
