import SalesDesk.Calendar.Layout

/-!
Texts as days: in the standard order, in one of the short forms with marks or quarters, or written
freely. Plain numbers below a thousand are no days.
-/
namespace SalesDesk

inductive DayText
  | missing
  | stamp (s : Stamp)
  | unreadable

namespace DayText

def missingTexts : List String := ["", "NaT", "nat", "NAT", "nan", "NaN", "NAN"]

def isClockWord (s : String) : Bool := s == "now" || s == "today"

/-- A number below a thousand is no day, unless it starts with a zero. Nor are a few letters. -/
def looksLikeNumber (s : String) : Bool :=
  if s.toList.head? == some '0' then false
  else
    ["a", "A", "m", "M", "p", "P", "t", "T"].contains s ||
      (!s.toList.contains '_' && s.toList.all (·.toNat < 128) &&
        (Number.readFloat? s).any fun x => !(1000.0 ≤ x))

/-- Does a text start with a time? What it does not say of the day is that of today. -/
def startsWithTime (s : String) : Bool :=
  match s.toList with
  | h :: ':' :: m :: n :: _ => [h, m, n].all (·.isDigit) && m < '6'
  | g :: h :: ':' :: m :: n :: _ =>
    [g, h, m, n].all (·.isDigit) && Number.digitsToNat [g, h] < 24 && m < '6'
  | _ => false

def readYear? (cs : List Char) : Option Nat :=
  match Number.readInt (String.ofList cs) with
  | .value n => if 1 ≤ n && n ≤ 9999 then some n.toNat else none
  | _ => none

/-- The first day of a quarter, the year before or after it: `2024Q2`, `24-Q2`, `2Q2024`, `2Q-24`.
The inner result is `none` where the number of the quarter is out of range. -/
def quarter? (s : String) : Option (Option Stamp) := do
  let cs := s.toList.map fun c => if c == 'q' then 'Q' else c
  let length := cs.length
  if length < 4 || 7 < length then none
  let place ← ((cs.take 6).drop 1).idxOf? 'Q'
  let short (apart : Bool) := length == 4 || (length == 5 && apart)
  let long (apart : Bool) := length == 6 || (length == 7 && apart)
  let number (cs : List Char) : Option Int :=
    match Number.readInt (String.ofList cs) with
    | .value n => some n
    | _ => none
  let (quarter, year) ←
    match place + 1 with
    | 1 => do
      let quarter ← number (cs.take 1)
      let apart := cs[2]? == some '-'
      if short apart then some (quarter, 2000 + (← number (cs.drop (length - 2))))
      else if long apart then some (quarter, ← number (cs.drop (length - 4)))
      else none
    | 2 | 3 => do
      let quarter ← number (cs.drop (length - 1))
      if short (cs[place]? == some '-') then some (quarter, 2000 + (← number (cs.take 2)))
      else none
    | _ => do
      if !long (cs[place]? == some '-') then none
      some (← number (cs.drop (length - 1)), ← number (cs.take 4))
  if quarter < 1 || 4 < quarter then return none
  if year < 1 || 9999 < year then none
  return some { year := some year.toNat, month := some (3 * quarter.toNat - 2), day := some 1 }

def year? (s : String) : Option Stamp :=
  if s.length == 4 then (readYear? s.toList).map fun y => { year := some y } else none

def monthAndYear? (s : String) : Option Stamp := do
  let cs := s.toList.map Number.plainDigit
  let name := Text.lower (String.ofList (cs.take 3))
  let month ← monthNames.findIdx? fun full => String.ofList (full.toList.take 3) == name
  let rest := cs.drop 3
  let digits := if rest.head? == some '-' then rest.drop 1 else rest.dropWhile Text.isBlank
  let year := Number.digitsToNat digits
  if rest.length == digits.length || digits.length != 4 || !digits.all (·.isDigit) then none
  if year < 1 then none
  some { year := some year, month := some (month + 1) }

def isDelimiter (c : Char) : Bool := [' ', '-', '.', '/'].contains c

/-- A month, a day and a year of four digits, or a month and such a year, with single marks between
them. The month comes first unless it can be none. The inner result is `none` where the calendar
has no such day. -/
def delimited? (s : String) : Option (Option Stamp) :=
  let cs := s.toList
  let pieces := Text.splitOn isDelimiter cs
  if !pieces.all (·.all (·.isDigit)) then none
  else
    match pieces.map List.length, pieces.map Number.digitsToNat with
    | [2, 4], [m, y] => if y < 1000 || cs.contains '.' then none else some (whole y m 1)
    | [a, b, 4], [m, d, y] =>
      if y < 1000 || a < 1 || 2 < a || b < 1 || 2 < b then none
      else some (if 12 < m then whole y d m else whole y m d)
    | _, _ => none
where
  whole (year month day : Nat) : Option Stamp :=
    (Date.ofParts? year month day).map fun d =>
      { year := some d.year, month := some d.month, day := some d.day }

/-- A time finer than a millionth of a second must be one that billionths since 1970 can count. -/
def isCountable (s : Stamp) : Bool :=
  s.nano % 1000 == 0 || s.date?.any fun d => (s.nanoseconds d).natAbs < 0x8000000000000000

/-- A text in the standard order, else one of the short forms, else one that writes its day
freely. -/
def readStamp? (s : String) (today : Date) : Option Stamp :=
  match StandardDay.read? s.toList with
  | some found => if isCountable found then some found else none
  | none =>
    if looksLikeNumber s then none
    else if startsWithTime s then WrittenDay.read? s today true
    else
      match delimited? s, year? s <|> monthAndYear? s, quarter? s with
      | some found, _, _ => found
      | none, some found, _ => some found
      | none, none, some found => found
      | none, none, none => WrittenDay.read? s today false

def ofText (s : String) (today : Date) : DayText :=
  if missingTexts.contains s then missing
  else if isClockWord s then stamp (.ofDate today)
  else
    match readStamp? s today with
    | some found => stamp found
    | none => unreadable

end DayText

end SalesDesk
