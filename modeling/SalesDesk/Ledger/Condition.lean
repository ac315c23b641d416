import SalesDesk.Figure
import SalesDesk.Ledger.IdColumn
import SalesDesk.Calendar.Period

/-! What a filter asks of records. -/
namespace SalesDesk

namespace Filter

/-- What is asked of a record. A value that its field cannot have is `none` and holds of nothing. -/
inductive Test (α : Type) where
  | period (p : Option Period)
  | named (column : Column) (name : Option String)
  | amount (x : Option α)
  | quantity (x : Option α)
  /-- An id, and the moment that it says if it is a text. -/
  | masterId (v : Value) (said : Option Moment)
  | date (d : Option Date)
  | isSale (v : Value)
  | country (name : Option String)
  /-- Nothing can be asked this way. -/
  | refused (why : Fault)

/-- One test for all records, or one for each of them. -/
inductive Condition (α : Type) where
  | all (test : Test α)
  | each (tests : List (Test α))

variable {α : Type} [Figure α]

/-- Does a record pass? Months and the kind of the ids are looked up before this. -/
def Test.holds (month : Option Nat) (ids : IdColumn) (test : Test α) (r : Record α) : Bool :=
  match test with
  | .period none => true
  | .period (some p) => Period.includes month p.year? r.date
  | .named column name => name == some (r.named column)
  | .amount x => x.any (Figure.same r.amount)
  | .quantity x => x.any (Figure.same r.quantity)
  | .masterId v said => ids.holds v said r.masterId
  | .date d => d == some r.date
  | .isSale v => Value.bool r.isSale == v
  | .country name => r.country.isSome && r.country == name
  | .refused _ => false

/-- The month that a test asks for. The test must be possible, and a double asked for by an integer
within range. -/
def Test.month? (ids : IdColumn) : Test α → Except Fault (Option Nat)
  | .period (some p) => p.monthNumber
  | .refused why => .error why
  | .masterId (.int n) _ =>
    if ids == .doubles && (Number.ofInt? n).isNone then .error .tooLarge else .ok none
  | _ => .ok none

/-- The rows that a condition accepts or refuses. In a list of tests a text asks for no moment. -/
def Condition.select {β : Type} (record : β → Record α) (keeps : Bool) (rows : List β) :
    Condition α → Except Fault (List β)
  | .all test => do
    let ids := IdColumn.ofIds (rows.map fun row => (record row).masterId)
    let month ← test.month? ids
    return rows.filter fun row => test.holds month ids (record row) == keeps
  | .each tests => do
    if tests.length != rows.length then throw (.conditionCount tests.length rows.length)
    let ids := IdColumn.ofIds (rows.map fun row => (record row).masterId)
    let ids := if ids == .moments then .mixed else ids
    return ((rows.zip tests).filter fun p => p.2.holds none ids (record p.1) == keeps).map (·.1)

def figureOf? : Value → Option Float
  | .number x => some x
  | .int n => Number.ofInt? n
  | .bool b => some (if b then 1.0 else 0.0)
  | _ => none

def textOf? : Value → Option String
  | .text s => some s
  | _ => none

def momentOf? (v : Value) (today : Date) : Option Moment :=
  match v with
  | .text s => DayText.moment? s today
  | .moment m => some m
  | _ => none

def dayAt? (m : Moment) : Option Date := if m == ⟨m.date, 0, 0, 0, 0⟩ then some m.date else none

def testOf (field : Field) (v : Value) (today : Date) : Test Float :=
  match field with
  | .named column => .named column (textOf? v)
  | .amount => .amount (figureOf? v)
  | .quantity => .quantity (figureOf? v)
  | .masterId => .masterId v (momentOf? v today)
  | .date => .date ((momentOf? v today).bind dayAt?)
  | .isSale => .isSale v
  | .country => .country (textOf? v)

/-- No figure can be compared with an integer beyond the range of doubles. -/
def isBeyondFigures (field : Field) : Value → Bool
  | .int n => (field == .amount || field == .quantity) && (Number.ofInt? n).isNone
  | _ => false

/-- The items of a list that is compared with a column: beside a text all scalars are texts, if no
integer is beyond the machine words. -/
def itemsOf (items : List Value) : List Value :=
  let isScalar : Value → Bool
    | .int n => IdColumn.fitWords [n]
    | v => v matches .bool _ | .number _ | .text _
  if items.any (· matches .text _) && items.all isScalar then items.map fun v => .text v.shown
  else items

/-- An item of a list asks for no day by its text. -/
def itemTest (field : Field) (v : Value) (today : Date) : Test Float :=
  match field, v with
  | .date, .text _ => .date none
  | field, v => testOf field v today

/-- The condition that a field is equal to a value. A list has a value for each record. -/
def conditionOf (field : String) (v : Value) (today : Date := .standIn) : Condition Float :=
  match Field.ofName? field, v with
  | none, _ => .all (.refused (.unknownFilterField field))
  | some field, .list items => .each ((itemsOf items).map fun v => itemTest field v today)
  | some field, v =>
    .all (if isBeyondFigures field v then .refused .tooLarge else testOf field v today)

end Filter

end SalesDesk
