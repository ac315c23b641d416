import SalesDesk.Number.Fixed

/-! Calendar days and their written forms. -/
namespace SalesDesk

structure Date where
  year : Nat
  month : Nat
  day : Nat
deriving DecidableEq

namespace Date

/-- The day on which texts are read if no other is given. -/
def standIn : Date := ⟨2026, 7, 1⟩

def isLeap (year : Nat) : Bool := year % 4 == 0 && (year % 100 != 0 || year % 400 == 0)

def daysInMonth (year month : Nat) : Nat :=
  if month == 2 then if isLeap year then 29 else 28
  else if [4, 6, 9, 11].contains month then 30
  else 31

/-- The day, if the calendar has it between the years 1 and 9999. -/
def ofParts? (year month day : Nat) : Option Date :=
  if 1 ≤ year && year ≤ 9999 && 1 ≤ month && month ≤ 12 && 1 ≤ day &&
      day ≤ daysInMonth year month then some ⟨year, month, day⟩
  else none

def daysBeforeYear (year : Nat) : Nat :=
  let y := year - 1
  365 * y + y / 4 - y / 100 + y / 400

def daysBeforeMonth (year month : Nat) : Nat :=
  (List.range (month - 1)).foldl (fun days m => days + daysInMonth year (m + 1)) 0

def toOrdinal (d : Date) : Nat :=
  daysBeforeYear d.year + daysBeforeMonth d.year d.month + d.day

/-- The month that holds the zero-based day of a year, and its zero-based day in the month. -/
def monthOfDay (year : Nat) : Nat → Nat → Nat × Nat
  | 0, day => (12, day)
  | left + 1, day =>
    let month := 12 - left
    if day < daysInMonth year month then (month, day)
    else monthOfDay year left (day - daysInMonth year month)

/-- The day with the given number: the cycle of 400 years, then its centuries, its groups of four
years and single years. -/
def ofOrdinal (number : Nat) : Date :=
  let n := number - 1
  let cycles := n / 146097
  let n := n % 146097
  let centuries := min 3 (n / 36524)
  let n := n - centuries * 36524
  let fours := n / 1461
  let n := n % 1461
  let ones := min 3 (n / 365)
  let year := 400 * cycles + 100 * centuries + 4 * fours + ones + 1
  let (month, day) := monthOfDay year 12 (n - ones * 365)
  ⟨year, month, day + 1⟩

def weekday (d : Date) : Nat := (d.toOrdinal + 6) % 7

def onWeekday? (d : Date) (weekday : Nat) : Option Date :=
  let next := ofOrdinal (d.toOrdinal + (weekday + 7 - d.weekday) % 7)
  ofParts? next.year next.month next.day

def le (a b : Date) : Bool :=
  a.year < b.year || a.year == b.year &&
    (a.month < b.month || a.month == b.month && a.day ≤ b.day)

def earlier (a b : Date) : Date := if a.le b then a else b

def later (a b : Date) : Date := if a.le b then b else a

def padded (width n : Nat) : String := String.ofList (Number.padLeft width (Number.digits n))

/-- Year, month and day with hyphens, `2024-04-02`. -/
def iso (d : Date) : String :=
  padded 4 d.year ++ "-" ++ padded 2 d.month ++ "-" ++ padded 2 d.day

/-- Day, month and year with slashes, `02/04/2024`. -/
def slashed (d : Date) : String :=
  padded 2 d.day ++ "/" ++ padded 2 d.month ++ "/" ++ toString d.year

end Date

structure Moment where
  date : Date
  hour : Nat := 0
  minute : Nat := 0
  second : Nat := 0
  micro : Nat := 0
deriving DecidableEq

namespace Moment

/-- Date and time around a mark; the fraction of the second is left out when it is zero. -/
def withMark (mark : String) (m : Moment) : String :=
  let clock :=
    Date.padded 2 m.hour ++ ":" ++ Date.padded 2 m.minute ++ ":" ++ Date.padded 2 m.second
  let fraction := if m.micro == 0 then "" else "." ++ Date.padded 6 m.micro
  m.date.iso ++ mark ++ clock ++ fraction

/-- Date and time with so many places of the second. The year stands as it is. -/
def inPlaces (places : Nat) (m : Moment) : String :=
  let day := String.intercalate "-"
    [toString m.date.year, Date.padded 2 m.date.month, Date.padded 2 m.date.day]
  let clock := String.intercalate ":" ([m.hour, m.minute, m.second].map (Date.padded 2))
  let fraction :=
    if places == 0 then "" else "." ++ Date.padded places (m.micro / Nat.pow 10 (6 - places))
  day ++ " " ++ clock ++ fraction

end Moment

end SalesDesk
