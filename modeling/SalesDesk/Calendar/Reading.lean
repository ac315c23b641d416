import SalesDesk.Calendar.Columns
import SalesDesk.Calendar.DayText

/-!
Values of any kind as days. A list says a day for each of its items, and an object may hold columns
of years, months and days; neither is one day.
-/
namespace SalesDesk

inductive DayReading
  | day (d : Date)
  | missing
  | unreadable
  /-- A day before the year 1. -/
  | beyondCalendar
  /-- A list stands where one day should. -/
  | inList (single : Bool)

namespace DayReading

def ofStamp (s : Stamp) : DayReading :=
  match s.date? with
  | some d => day d
  | none => beyondCalendar

/-- A text is read in its own layout, if it has one. -/
def ofText (s : String) (today : Date := .standIn) : DayReading :=
  match DayText.ofText s today, (DayLayout.ofText? s today).bind (DayLayout.match? · s) with
  | .missing, _ => missing
  | _, some found => ofStamp found
  | .unreadable, none => unreadable
  | .stamp found, none => ofStamp found

def dayLength : Int := 86400000000000

/-- The day that many nanoseconds after the start of 1970. The least number stands for a day that
is not known. -/
def ofNanoseconds (n : Int) : DayReading :=
  if n < -0x8000000000000000 || 0x8000000000000000 ≤ n then unreadable
  else if n == -0x8000000000000000 then missing
  else day (Date.ofOrdinal (719163 + n / dayLength).toNat)

/-- Fractions of a nanosecond are dropped. A double out of range is no known day. -/
def ofDouble (x : Float) : DayReading :=
  if !x.isFinite then missing
  else
    match ofNanoseconds (Number.integerPart x) with
    | unreadable => missing
    | reading => reading

/-- What an item of a list says: the zone of its day, if it says a day. -/
inductive Item
  | missing
  | unreadable
  | day (offset : Option Int)

namespace Item

def ofNanoseconds (n : Int) : Item :=
  match DayReading.ofNanoseconds n with
  | .missing => missing
  | .day _ => day none
  | _ => unreadable

def ofValue (today : Date) : Value → Item
  | .null => missing
  | .date _ | .moment _ => day none
  | .text s =>
    match DayText.ofText s today with
    | .missing => missing
    | .unreadable => unreadable
    | .stamp found => day found.offset
  | .int n => ofNanoseconds n
  | .number x =>
    if x.isNaN then missing
    else if x.isFinite then ofNanoseconds (Number.integerPart x)
    else unreadable
  | _ => unreadable

/-- An item in the layout of its list. Days and items without a day need none. -/
def inLayout (pieces : List DayLayout.Piece) (today : Date) (v : Value) : Item :=
  match ofValue today v, v with
  | missing, _ => missing
  | item, .date _ | item, .moment _ => item
  | item, _ =>
    if DayText.isClockWord v.shown then item
    else
      match DayLayout.match? pieces v.shown with
      | some found => day found.offset
      | none => unreadable

end Item

/-- The layout of a list is that of its first text, if no other day comes before it. -/
def listLayout? (items : List Value) (today : Date) : Option (List DayLayout.Piece) :=
  let known := items.filter fun v =>
    !(Item.ofValue today v matches .missing) && !DayText.isClockWord v.shown
  match known with
  | .text s :: _ => DayLayout.ofText? s today
  | _ => none

/-- A list of days is no day. It is unreadable if one of its items is, or if their zones differ. -/
def ofItems (values : List Value) (today : Date) : DayReading :=
  let items :=
    match listLayout? values today with
    | some pieces => values.map (Item.inLayout pieces today)
    | none => values.map (Item.ofValue today)
  let zones := items.filterMap fun
    | .day offset => some offset
    | _ => none
  if items.any (· matches .unreadable) || zones.any (· != zones.headD none) then unreadable
  else
    match items with
    | [.missing] => missing
    | [_] => inList true
    | _ => inList false

def ofValue (v : Value) (today : Date) : DayReading :=
  match v with
  | .date d => day d
  | .moment m => day m.date
  | .text s => ofText s today
  | .int n => ofNanoseconds n
  | .number x => ofDouble x
  | .null => missing
  | .list items => ofItems items today
  | .object fields => if DayColumns.holdDays fields then inList false else unreadable
  | .bool _ => unreadable

end DayReading

end SalesDesk
