import SalesDesk.Calendar.Reading
import SalesDesk.Ledger.Record
import SalesDesk.Value.Written

/-! Raw rows, and the records they are read as. -/
namespace SalesDesk.Intake

/-- Other spellings of field names. -/
def spellings : List (String × Field) := [
  ("masterid", .masterId), ("masterId", .masterId),
  ("cp_date", .date), ("date", .date), ("transactionDate", .date),
  ("issales", .isSale), ("isSale", .isSale), ("isSales", .isSale)]

def fieldName (key : String) : String :=
  match spellings.lookup key with
  | some field => field.name
  | none => key

/-- A later spelling of a field counts only where the earlier ones hold nothing. -/
def merge (found : Entries Value) (name : String) (v : Value) : Entries Value :=
  if (found.lookup name).all (·.isAbsent) then found.put name v else found

def canonical (row : Entries Value) : Entries Value :=
  row.foldl (fun found f => merge found (fieldName f.1) f.2) []

def required : List Field := [.named .customer, .amount, .quantity, .masterId, .date]

def fieldOf (row : Entries Value) (field : Field) : Value :=
  (row.lookup field.name).getD .null

def missing (row : Entries Value) : List String :=
  (required.filter fun f => (fieldOf row f).isAbsent).map Field.name

/-- The value as a plain text without blanks at its ends, if it can be written. -/
def readText (v : Value) : Except Fault String := v.written (Text.strip v.shown)

/-- The text of a name; what holds nothing is the empty name. -/
def readName (v : Value) : Except Fault String :=
  if v.holdsSomething then readText v else .ok ""

def refuse {β : Type} (index : Nat) (problem : Value → RowProblem) (v : Value) :
    Except Fault β := do
  throw (.badRow index (← v.written (problem v)))

def readAmount (index : Nat) (field : String) : Value → Except Fault Float
  | .bool _ => .error (.badRow index (.booleanNumber field))
  | .number x => .ok x
  | .int n =>
    match Number.ofInt? n with
    | some x => .ok x
    | none => .error .tooLarge
  | v =>
    match Number.readFloat? (Text.strip (String.ofList (v.shown.toList.filter (· != ',')))) with
    | some x => .ok x
    | none => refuse index (.notANumber field) v

def readDay (index : Nat) (v : Value) (today : Date) : Except Fault Date :=
  match DayReading.ofValue v today with
  | .day d => .ok d
  | .missing => .error (.badRow index .missingDate)
  | .unreadable => refuse index .notADate v
  | .inList single => .error (.dateList single)
  | .beyondCalendar => .error .beyondCalendar

/-- A few texts mean yes and all others no; other values mean yes if they hold anything. -/
def readFlag : Value → Bool
  | .text s => ["true", "yes", "1", "y"].contains (Text.lower (Text.strip s))
  | v => v.holdsSomething

def readCountry (v : Value) : Except Fault (Option String) :=
  if v.isAbsent then .ok none else some <$> readText v

def readFields (index : Nat) (row : Entries Value) (today : Date) :
    Except Fault (Record Float) := do
  let lacking := missing row
  if !lacking.isEmpty then throw (.badRow index (.missingFields lacking))
  let customer ← readName (fieldOf row (.named .customer))
  let item ← readName (fieldOf row (.named .item))
  let category ← readName (fieldOf row (.named .category))
  let region ← readName (fieldOf row (.named .region))
  let amount ← readAmount index Field.amount.name (fieldOf row .amount)
  let quantity ← readAmount index Field.quantity.name (fieldOf row .quantity)
  let date ← readDay index (fieldOf row .date) today
  let country ← readCountry (fieldOf row .country)
  return {
    customer, item, category, region, amount, quantity, date, country
    masterId := fieldOf row .masterId
    isSale := readFlag ((row.lookup Field.isSale.name).getD (.bool true)) }

inductive Row
  | raw (v : Value)
  | built (r : Record Float)

def readRow (index : Nat) (row : Row) (today : Date) : Except Fault (Record Float) :=
  match row with
  | .built r => .ok r
  | .raw (.object fields) => readFields index (canonical fields) today
  | .raw v => .error (.badRow index (.notAnObject v))

def readRowsFrom (index : Nat) (rows : List Row) (today : Date) :
    Except Fault (List (Record Float)) :=
  match rows with
  | [] => .ok []
  | row :: rest => do
    let r ← readRow index row today
    let records ← readRowsFrom (index + 1) rest today
    return r :: records

/-- The records of all rows, in order. The first bad row stops the reading. -/
def readRows (rows : List Row) (today : Date) : Except Fault (List (Record Float)) :=
  readRowsFrom 0 rows today

/-- The rows of a value. A text consists of its characters and an object of its keys. -/
def rowsOf : Value → Except Fault (List Row)
  | .null => .ok []
  | .list items => .ok (items.map .raw)
  | .text s => .ok (s.toList.map fun c => .raw (.text c.toString))
  | .object fields => .ok (fields.map fun f => .raw (.text f.1))
  | v => .error (.rowsNotAList v)

end SalesDesk.Intake
