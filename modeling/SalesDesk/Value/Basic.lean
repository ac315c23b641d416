import SalesDesk.Calendar.Date
import SalesDesk.Number.Nearest
import SalesDesk.Number.Reading
import SalesDesk.Number.Shortest
import SalesDesk.Text.Quoted

/-! Values as they arrive from outside: scalars, days, lists and objects that keep their order. -/
namespace SalesDesk

abbrev Entries (β : Type) := List (String × β)

namespace Entries

variable {β : Type}

/-- Put an entry. A name that is there already keeps its place. -/
def put (entries : Entries β) (name : String) (x : β) : Entries β :=
  if entries.any (·.1 == name) then entries.map fun e => if e.1 == name then (name, x) else e
  else entries ++ [(name, x)]

end Entries

inductive Value where
  | null
  | bool (b : Bool)
  | int (n : Int)
  | number (x : Float)
  | text (s : String)
  | date (d : Date)
  | moment (m : Moment)
  | list (items : List Value)
  | object (fields : List (String × Value))

namespace Value

def kindName : Value → String
  | null => "NoneType"
  | bool _ => "bool"
  | int _ => "int"
  | number _ => "float"
  | text _ => "str"
  | date _ => "date"
  | moment _ => "datetime"
  | list _ => "list"
  | object _ => "dict"

/-- Null, false, zero and whatever is empty hold nothing. -/
def holdsSomething : Value → Bool
  | null => false
  | bool b => b
  | int n => n != 0
  | number x => x != 0.0
  | text s => !s.isEmpty
  | date _ | moment _ => true
  | list items => !items.isEmpty
  | object fields => !fields.isEmpty

/-- Null and the empty text stand for a value that was not given. -/
def isAbsent : Value → Bool
  | null => true
  | text s => s.isEmpty
  | _ => false

def asInt? : Value → Option Int
  | bool b => some (if b then 1 else 0)
  | int n => some n
  | _ => none

def floatIsInt (x : Float) (n : Int) : Bool :=
  x.isFinite && Number.integerPart x == n && x == Number.ofInt n

/-- Equality of values: numbers are compared by size whatever their kind, nothing equals what is
not a number, and lists and objects are not compared. -/
def same (a b : Value) : Bool :=
  match a.asInt?, b.asInt? with
  | some m, some n => m == n
  | some m, none =>
    match b with
    | number y => floatIsInt y m
    | _ => false
  | none, some n =>
    match a with
    | number x => floatIsInt x n
    | _ => false
  | none, none =>
    match a, b with
    | null, null => true
    | number x, number y => x == y
    | text s, text t => s == t
    | date d, date e => d == e
    | moment s, moment t => s == t
    | _, _ => false

instance : BEq Value := ⟨same⟩

def partsText (name : String) (parts : List Nat) : String :=
  name ++ "(" ++ String.intercalate ", " (parts.map toString) ++ ")"

/-- The parts of a moment, without the seconds and their fraction where they are zero. -/
def momentParts (m : Moment) : List Nat :=
  [m.date.year, m.date.month, m.date.day, m.hour, m.minute] ++
    (if m.micro != 0 then [m.second, m.micro] else if m.second != 0 then [m.second] else [])

mutual

def quoted : Value → String
  | null => "None"
  | bool b => if b then "True" else "False"
  | int n => toString n
  | number x => Number.plainDouble.text x
  | text s => Text.quoted s
  | date d => partsText "datetime.date" [d.year, d.month, d.day]
  | moment m => partsText "datetime.datetime" (momentParts m)
  | list items => "[" ++ String.intercalate ", " (quotedItems items) ++ "]"
  | object fields => "\x7b" ++ String.intercalate ", " (quotedFields fields) ++ "\x7d"

def quotedItems : List Value → List String
  | [] => []
  | v :: rest => v.quoted :: quotedItems rest

def quotedFields : Entries Value → List String
  | [] => []
  | (name, v) :: rest => (Text.quoted name ++ ": " ++ v.quoted) :: quotedFields rest

end

mutual

def holdsLongInteger : Value → Bool
  | int n => Number.leastTooLong ≤ n.natAbs
  | list items => itemsHoldLong items
  | object fields => fieldsHoldLong fields
  | _ => false

def itemsHoldLong : List Value → Bool
  | [] => false
  | v :: rest => v.holdsLongInteger || itemsHoldLong rest

def fieldsHoldLong : Entries Value → Bool
  | [] => false
  | (_, v) :: rest => v.holdsLongInteger || fieldsHoldLong rest

end

/-- The value as a plain text: texts and days as they are, the rest as quoted. -/
def shown : Value → String
  | text s => s
  | date d => d.iso
  | moment m => m.withMark " "
  | v => v.quoted

/-- The value of a field; of two fields of one name the last one counts. -/
def field? (name : String) (fields : Entries Value) : Option Value :=
  (fields.reverse.find? (·.1 == name)).map (·.2)

end Value

end SalesDesk
