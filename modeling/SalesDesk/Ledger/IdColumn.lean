import SalesDesk.Calendar.DayText
import SalesDesk.Ledger.Record
import SalesDesk.Number.Reading

/-!
The ids of a ledger as one column. A column of one kind of number or of moments alone compares its
ids in its own way; other columns compare them as they are.
-/
namespace SalesDesk

def Value.isNotANumber : Value → Bool
  | .number x => x.isNaN
  | _ => false

/-- Null and what is no number stand for an id that is missing. -/
def Value.isMissingId (v : Value) : Bool := (v matches .null) || v.isNotANumber

/-- The moment that a text says, if it says no zone. The time on the clock is not the moment of an
id. -/
def DayText.moment? (s : String) (today : Date) : Option Moment :=
  if isClockWord s then none
  else
    match ofText s today with
    | .stamp found =>
      if found.offset.isSome || found.nano % 1000 != 0 then none
      else
        found.date?.map fun date =>
          ⟨date, found.hour.getD 0, found.minute.getD 0, found.second.getD 0, found.nano / 1000⟩
    | _ => none

inductive IdColumn
  /-- Ids of several kinds. -/
  | mixed
  /-- Integers that a machine word holds. -/
  | words
  /-- Numbers, at least one of them a double or missing. -/
  | doubles
  /-- Moments, and ids that are missing. -/
  | moments
deriving DecidableEq

namespace IdColumn

/-- A machine word has a sign or reaches twice as far, but not both. -/
def fitWords (ids : List Int) : Bool :=
  ids.all (fun n => -0x8000000000000000 ≤ n && n < 0x10000000000000000) &&
    (ids.all (· < 0x8000000000000000) || ids.all (0 ≤ ·))

def ofIds (ids : List Value) : IdColumn :=
  let integers := ids.filterMap fun
    | .int n => some n
    | _ => none
  let isDouble (v : Value) : Bool := v matches .number _
  let isMoment (v : Value) : Bool := v matches .moment _
  if ids.any isMoment && ids.all (fun v => isMoment v || v.isMissingId) then moments
  else if !ids.all (fun v => (v matches .int _) || isDouble v || v.isMissingId) then mixed
  else if !fitWords integers then mixed
  else if ids.any isDouble || (!integers.isEmpty && ids.any (·.isMissingId)) then doubles
  else if integers.isEmpty then mixed
  else words

/-- Is an id equal to what is asked for? Integers and doubles meet as doubles in a column of one of
them, and a text asks for the moment that it says in a column of moments. -/
def holds (column : IdColumn) (asked : Value) (said : Option Moment) (id : Value) : Bool :=
  match column, asked, id with
  | words, .number x, .int n => Number.ofInt n == x
  | doubles, .int n, id => (Number.ofInt? n).any fun x => id == .number x
  | moments, .text _, .moment m => said == some m
  | _, asked, id => id == asked

def entry (column : IdColumn) (id : Value) : Value :=
  match column, id with
  | doubles, .int n => .number (Number.ofInt n)
  | doubles, .null => .number Number.notANumber
  | _, id => id

/-- The moments of a column as texts: days alone if no moment has a time, else with as many places
of the second as one of them needs. -/
def momentText (ids : List Value) : Moment → String :=
  let found := ids.filterMap fun
    | .moment m => some m
    | _ => none
  let places :=
    if found.all (·.micro == 0) then 0
    else if found.all (·.micro % 1000 == 0) then 3
    else 6
  if found.all fun m => m == ⟨m.date, 0, 0, 0, 0⟩ then fun m => m.date.iso
  else Moment.inPlaces places

end IdColumn

end SalesDesk
