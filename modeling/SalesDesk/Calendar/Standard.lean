import SalesDesk.Calendar.Stamp
import SalesDesk.Number.Reading

/-!
Days and times in the standard order, `2024-04-02T10:30:59.5+05:30`. The parts of the day stand
apart by one mark of a kind or are joined, the time is joined or stands apart by colons, and the
text may stop after the year, after a month that stands apart, after the day, the hour, the minute
or the second.
-/
namespace SalesDesk.StandardDay

def isBlank (c : Char) : Bool := c == ' ' || (9 ≤ c.toNat && c.toNat ≤ 13)

def isSeparator (c : Char) : Bool := ['-', '.', '/', '\\', ' '].contains c

/-- A number of one or two digits; one digit is enough only where the parts stand apart. -/
def takePair? (apart : Bool) : List Char → Option (Nat × List Char)
  | c :: d :: rest =>
    if !c.isDigit then none
    else if d.isDigit then some (Number.digitsToNat [c, d], rest)
    else if apart then some (Number.digitsToNat [c], d :: rest) else none
  | [c] => if c.isDigit && apart then some (Number.digitsToNat [c], []) else none
  | [] => none

def startsWithDigit (cs : List Char) : Bool := cs.head?.any (·.isDigit)

def readOffset? (cs : List Char) : Option (Nat × List Char) := do
  let (hours, cs) ← takePair? true cs
  if 24 ≤ hours then none
  match cs with
  | [] => return (60 * hours, [])
  | c :: rest =>
    let (minutes, cs) ← takePair? true (if c == ':' then rest else c :: rest)
    if 60 ≤ minutes then none
    return (60 * hours + minutes, cs)

def readZone? (s : Stamp) (cs : List Char) : Option Stamp :=
  match cs.dropWhile isBlank with
  | [] => some s
  | c :: rest => do
    let (offset, rest) ←
      if c == 'Z' then some (some 0, rest)
      else if c == '+' then (readOffset? rest).map fun (n, cs) => (some (60 * n : Int), cs)
      else if c == '-' then (readOffset? rest).map fun (n, cs) => (some (-(60 * n : Int)), cs)
      else none
    if rest.all isBlank then some { s with offset } else none

/-- The fraction of a second has at most eighteen digits. -/
def readFraction? (s : Stamp) (cs : List Char) : Option Stamp :=
  let ds := cs.takeWhile (·.isDigit)
  if 18 < ds.length then none
  else
    let nano := Number.digitsToNat ((ds ++ List.replicate 9 '0').take 9)
    readZone? { s with nano } (cs.drop ds.length)

def readSecond? (s : Stamp) (apart : Bool) (cs : List Char) : Option Stamp := do
  let (second, cs) ← takePair? apart cs
  if 60 ≤ second then none
  let s := { s with second := some second }
  match cs with
  | '.' :: rest => readFraction? s rest
  | _ => readZone? s cs

def readMinute? (s : Stamp) (apart : Bool) (cs : List Char) : Option Stamp := do
  let (minute, cs) ← takePair? apart cs
  if 60 ≤ minute then none
  let s := { s with minute := some minute }
  match apart, cs with
  | true, ':' :: rest => if startsWithDigit rest then readSecond? s apart rest else none
  | _, _ => if !apart && startsWithDigit cs then readSecond? s apart cs else readZone? s cs

def readHour? (s : Stamp) (cs : List Char) : Option Stamp := do
  let (hour, rest) ← takePair? true cs
  if 24 ≤ hour then none
  let s := { s with hour := some hour }
  match rest with
  | ':' :: more => if startsWithDigit more then readMinute? s true more else none
  | _ =>
    if startsWithDigit rest then readMinute? s false rest
    else if cs.length - rest.length == 2 then readZone? s rest else none

/-- The days of any month, the years before the calendar included. -/
def isDayOf (year month day : Nat) : Bool := 1 ≤ day && day ≤ Date.daysInMonth year month

def readDay? (s : Stamp) (year month : Nat) (apart : Bool) (cs : List Char) : Option Stamp := do
  let (day, cs) ← takePair? apart cs
  if !isDayOf year month day then none
  let s := { s with day := some day }
  match cs with
  | [] => return s
  | c :: rest => if (c == 'T' || c == ' ') && !rest.isEmpty then readHour? s rest else none

def readMonth? (s : Stamp) (year : Nat) (mark : Option Char) (cs : List Char) : Option Stamp := do
  let (month, cs) ← takePair? mark.isSome cs
  if month < 1 || 12 < month then none
  let s := { s with month := some month }
  match mark, cs with
  | some _, [] => return { s with day := some 1 }
  | none, [] => none
  | some m, c :: rest =>
    if c == m && startsWithDigit rest then readDay? s year month true rest else none
  | none, cs => readDay? s year month false cs

/-- The year has four digits. A minus sign before it puts it before the calendar, like the
year 0. -/
def read? (text : List Char) : Option Stamp := do
  let cs := text.dropWhile isBlank
  let cs := if cs.head? == some '-' then cs.drop 1 else cs
  let ds := cs.take 4
  if ds.length < 4 || !ds.all (·.isDigit) then none
  let year := Number.digitsToNat ds
  let s : Stamp := { year := some (if text.head? == some '-' then 0 else year) }
  match cs.drop 4 with
  | [] => return { s with month := some 1, day := some 1 }
  | c :: rest =>
    if c.isDigit then readMonth? s year none (c :: rest)
    else if isSeparator c && startsWithDigit rest then readMonth? s year (some c) rest
    else none

end SalesDesk.StandardDay
