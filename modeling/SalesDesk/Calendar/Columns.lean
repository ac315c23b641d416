import SalesDesk.Calendar.Layout
import SalesDesk.Value.Basic

/-! Days given in columns of years, months and days. -/
namespace SalesDesk.DayColumns

inductive Cell
  | whole (n : Int)
  | real (x : Float)

namespace Cell

def ofInt? (n : Int) : Option Cell :=
  if -0x8000000000000000 ≤ n && n < 0x8000000000000000 then some (whole n)
  else if 0x8000000000000000 ≤ n && n < 0x10000000000000000 then none
  else (Number.ofInt? n).map real

def ofValue? : Value → Option Cell
  | .null => some (real Number.notANumber)
  | .bool b => some (whole (if b then 1 else 0))
  | .int n => ofInt? n
  | .number x => some (real x)
  | .text s =>
    if s.isEmpty then some (real Number.notANumber)
    else
      match Number.readInt s with
      | .value n => ofInt? n
      | _ => (Number.readFloat? s).map real
  | _ => none

def toFloat : Cell → Float
  | whole n => Number.ofInt n
  | real x => x

/-- Year, month and day as one number of eight digits; `none` is no number. -/
def joined : Cell → Cell → Cell → Option Int
  | whole y, whole m, whole d => some (10000 * y + 100 * m + d)
  | y, m, d =>
    let x := y.toFloat * 10000.0 + m.toFloat * 100.0 + d.toFloat
    if x.isFinite && x.abs < 9223372036854775808.0 then some (Number.integerPart x) else none

def isDay (n : Int) : Bool :=
  (DayLayout.match? ([.year, .month, .day].map DayLayout.Piece.place) (toString n)).isSome

end Cell

def partNames : List (String × String) :=
  [("year", "year"), ("years", "year"), ("month", "month"), ("months", "month"), ("day", "day"),
    ("days", "day"), ("hour", "h"), ("hours", "h"), ("minute", "m"), ("minutes", "m"),
    ("second", "s"), ("seconds", "s"), ("ms", "ms"), ("millisecond", "ms"),
    ("milliseconds", "ms"), ("us", "us"), ("microsecond", "us"), ("microseconds", "us"),
    ("ns", "ns"), ("nanosecond", "ns"), ("nanoseconds", "ns")]

def partName (name : String) : String :=
  ((partNames.lookup name).or (partNames.lookup (Text.lower name))).getD name

/-- The columns of an object at equal length: lists as they are, objects by the names of their
fields, and single values repeated. -/
def columns? (fields : Entries Value) : Option (Entries (List Value)) :=
  let lengths := fields.filterMap fun
    | (_, .list items) => some items.length
    | _ => none
  let names := (fields.flatMap fun
    | (_, .object inner) => inner.map (·.1)
    | _ => []).eraseDups
  let keyed := fields.any fun f => f.2 matches .object _
  match lengths, keyed with
  | [], false => none
  | [], true =>
    some (fields.map fun
      | (name, .object inner) => (name, names.map fun n => (Value.field? n inner).getD .null)
      | (name, v) => (name, names.map fun _ => v))
  | _ :: _, true => none
  | n :: rest, false =>
    if rest.any (· != n) then none
    else
      some (fields.map fun
        | (name, .list items) => (name, items)
        | (name, v) => (name, List.replicate n v))

/-- The cells of each part; of two columns of one part the last one counts. -/
def cells? (columns : Entries (List Value)) : Option (Entries (List Cell)) :=
  let parts : Entries (List Value) :=
    columns.foldl (fun found c => Entries.put found (partName c.1) c.2) []
  parts.mapM fun p => (p.2.mapM Cell.ofValue?).map (p.1, ·)

/-- Do the columns of an object hold days? Years, months and days must be there, times may be, and
nothing else. -/
def holdDays (fields : Entries Value) : Bool :=
  match (columns? fields).bind cells? with
  | none => false
  | some cells =>
    match cells.lookup "year", cells.lookup "month", cells.lookup "day" with
    | some years, some months, some days =>
      let numbers := (years.zip (months.zip days)).filterMap fun c => Cell.joined c.1 c.2.1 c.2.2
      cells.all (fun c => partNames.any (·.2 == c.1)) && numbers.all Cell.isDay
    | _, _, _ => false

end SalesDesk.DayColumns
