import SalesDesk.Calendar.Standard
import SalesDesk.Calendar.Written

/-!
The layout of a written day, taken from one text and matched against others. Each token of the
first text that shows a part of its day in the usual form of that part is a place for it; the other
tokens stand for themselves.
-/
namespace SalesDesk.DayLayout

open WrittenDay

inductive Place
  | year | month | monthName | monthShort | day
  | hour | halfHour | minute | second | point | fraction
  | offset | zoneName | weekdayShort | weekdayName | half
deriving DecidableEq

inductive Subject
  | year | month | day | hour | minute | second | fraction | zone | weekday | half
deriving DecidableEq

namespace Place

def subject? : Place → Option Subject
  | year => some .year
  | month | monthName | monthShort => some .month
  | day => some .day
  | hour | halfHour => some .hour
  | minute => some .minute
  | second => some .second
  | point => none
  | fraction => some .fraction
  | offset | zoneName => some .zone
  | weekdayShort | weekdayName => some .weekday
  | half => some .half

def short (name : String) : String := String.ofList (name.toList.take 3)

def weekdayTitle (n : Nat) : String := Text.capitalised (weekdayNames.getD n "")

def offsetText (seconds : Int) (mark : String) : String :=
  let minutes := seconds.natAbs / 60
  (if seconds < 0 then "-" else "+") ++ Date.padded 2 (minutes / 60) ++ mark ++
    Date.padded 2 (minutes % 60)

/-- The usual form of a part. What the text does not say of the day has none. -/
def show? (s : Stamp) : Place → Option String
  | year => s.year.map toString
  | month => s.month.map (Date.padded 2)
  | monthName => s.month.map monthTitle
  | monthShort => s.month.map fun m => short (monthTitle m)
  | day => s.day.map (Date.padded 2)
  | hour | halfHour => some (Date.padded 2 (s.hour.getD 0))
  | minute => some (Date.padded 2 (s.minute.getD 0))
  | second => some (Date.padded 2 (s.second.getD 0))
  | point => some "."
  | fraction => some (Date.padded 6 (s.nano / 1000))
  | offset => s.offset.map (offsetText · "")
  | zoneName => s.offset.map fun n => if n == 0 then "UTC" else "UTC" ++ offsetText n ":"
  | weekdayShort => fullDay?.map fun d => short (weekdayTitle d.weekday)
  | weekdayName => fullDay?.map fun d => weekdayTitle d.weekday
  | half => some (if s.hour.getD 0 < 12 then "AM" else "PM")
where
  fullDay? : Option Date := if s.isFullDay then s.date? else none

end Place

/-- What a token may show, in the order in which it is tried, and the width to which the token is
filled with zeros first. -/
def shapes : List (List Place × Nat) :=
  let day := [Place.year, .month, .day]
  [(day ++ [.hour, .minute, .second], 0), (day ++ [.hour, .minute], 0), (day ++ [.hour], 0),
    (day, 0), ([.hour, .minute, .second], 0), ([.hour, .minute], 0), ([.year], 0), ([.hour], 2),
    ([.monthName], 0), ([.monthShort], 0), ([.month], 2), ([.day], 2), ([.minute], 2),
    ([.second], 2), ([.second, .point, .fraction], 0), ([.offset], 0), ([.zoneName], 0),
    ([.weekdayShort], 0), ([.weekdayName], 0), ([.half], 0)]

/-- A token of the first text, and the parts that it shows if it shows any. -/
structure Slot where
  text : String
  /-- Is the token a number? -/
  isNumber : Bool := false
  places : List Place := []

/-- The slot of a token; digits of a fraction are kept as they are. -/
def slotOf : Token → Slot
  | .number n =>
    let whole := String.ofList n.whole
    ⟨if n.isInteger then whole else whole ++ "." ++ String.ofList n.fraction, true, []⟩
  | .word w => ⟨w, false, []⟩
  | .mark c => ⟨c.toString, false, []⟩
  | .space => ⟨" ", false, []⟩
  | .tangle => ⟨"", false, []⟩

/-- The token's text as it is compared: two digits and six decimals for a number with a point, else
filled with zeros. -/
def filled (width : Nat) (slot : Slot) : String :=
  let cs := slot.text.toList
  if slot.isNumber && cs.contains '.' then
    let fraction := (cs.dropWhile (· != '.')).drop 1
    Date.padded 2 (Number.digitsToNat (cs.takeWhile (· != '.'))) ++ "." ++
      String.ofList ((fraction ++ List.replicate 6 '0').take 6)
  else if slot.isNumber then String.ofList (Number.padLeft width cs)
  else slot.text

def take? (places : List Place) (width : Nat) (shown : String) : List Slot → Option (List Slot)
  | [] => none
  | slot :: rest =>
    if slot.places.isEmpty && filled width slot == shown then some ({ slot with places } :: rest)
    else (take? places width shown rest).map (slot :: ·)

/-- The slots and the subjects found by now, with one shape more if it is found. -/
def findShape (s : Stamp) (found : List Slot × List Subject) (shape : List Place × Nat) :
    List Slot × List Subject :=
  let subjects := shape.1.filterMap Place.subject?
  if subjects.any found.2.contains then found
  else
    match (shape.1.mapM (Place.show? s)).bind fun shown =>
        take? shape.1 shape.2 (String.join shown) found.1 with
    | some slots => (slots, found.2 ++ subjects)
    | none => found

def joinOffset (s : Stamp) (ts : List Token) : List Slot :=
  let slots := ts.map slotOf
  match s.offset with
  | none => slots
  | some n =>
    let zone : Slot := ⟨Place.offsetText n "", false, []⟩
    match ts.reverse with
    | .word "Z" :: _ => slots.take (ts.length - 1) ++ [zone]
    | _ :: .mark c :: _ =>
      if c == '+' || c == '-' then slots.take (ts.length - 2) ++ [zone]
      else joinLonger slots zone ts.reverse
    | more => joinLonger slots zone more
where
  joinLonger (slots : List Slot) (zone : Slot) : List Token → List Slot
    | _ :: _ :: _ :: .mark c :: _ =>
      if c == '+' || c == '-' then slots.take (slots.length - 4) ++ [zone] else slots
    | _ => slots

inductive Piece
  | place (p : Place)
  | literal (s : String)

/-- The first hour is read as one of half a day if a half of the day is shown. -/
def halveHour (slots : List Slot) : List Slot :=
  if slots.any (·.places == [.half]) then
    slots.map fun s => if s.places == [.hour] then { s with places := [.halfHour] } else s
  else slots

def isShortDay (slots : List Slot) : Bool :=
  match slots with
  | [y] => y.places == [.year]
  | [y, mark, m] =>
    y.places == [.year] && mark.places.isEmpty && mark.text == "-" && m.places == [.month]
  | _ => false

/-- The pieces, if the day is whole and each number is a part of it. -/
def pieces? (slots : List Slot) (found : List Subject) : Option (List Piece) :=
  if ([Subject.year, .month, .day].all found.contains || isShortDay slots) &&
      slots.all (fun s => !s.places.isEmpty || !s.isNumber) then
    some ((halveHour slots).flatMap fun s =>
      if s.places.isEmpty then [.literal s.text] else s.places.map .place)
  else none

/-- Names with their numbers. A longer name is tried before a shorter one. -/
def readName (names : List String) (cs : List Char) : List (Nat × List Char) :=
  names.zipIdx.filterMap fun (name, i) =>
    if Text.lower (String.ofList (cs.take name.length)) == name then some (i, cs.drop name.length)
    else none

def readPair (low high oneLow : Nat) (cs : List Char) : List (Nat × List Char) :=
  let pair :=
    match cs with
    | c :: d :: rest =>
      let n := Number.digitsToNat [c, d]
      if c.isDigit && d.isDigit && low ≤ n && n ≤ high then [(n, rest)] else []
    | _ => []
  let single :=
    match cs with
    | c :: rest =>
      let n := Number.digitsToNat [c]
      if c.isDigit && oneLow ≤ n then [(n, rest)] else []
    | [] => []
  pair ++ single

/-- All ways to read a part at the start of a text, the preferred one first. -/
def Place.read (s : Stamp) (cs : List Char) : Place → List (Stamp × List Char)
  | year =>
    let ds := cs.take 4
    if ds.length == 4 && ds.all (·.isDigit) then
      [({ s with year := some (Number.digitsToNat ds) }, cs.drop 4)]
    else []
  | month => (readPair 1 12 1 cs).map fun (n, rest) => ({ s with month := some n }, rest)
  | monthName => named monthNames
  | monthShort => named (monthNames.map short)
  | day =>
    let padded := if cs.head? == some ' ' then readPair 32 0 1 (cs.drop 1) else []
    (readPair 1 31 1 cs ++ padded).map fun (n, rest) => ({ s with day := some n }, rest)
  | hour => (readPair 0 23 0 cs).map fun (n, rest) => ({ s with hour := some n }, rest)
  | halfHour => (readPair 1 12 1 cs).map fun (n, rest) => ({ s with hour := some n }, rest)
  | minute => (readPair 0 59 0 cs).map fun (n, rest) => ({ s with minute := some n }, rest)
  | second => (readPair 0 61 0 cs).map fun (n, rest) => ({ s with second := some n }, rest)
  | point => if cs.head? == some '.' then [(s, cs.drop 1)] else []
  | fraction =>
    let ds := (cs.takeWhile (·.isDigit)).take 9
    ((List.range ds.length).reverse.map (· + 1)).map fun n => (s, cs.drop n)
  | offset =>
    match cs with
    | 'Z' :: rest => [({ s with offset := some 0 }, rest)]
    | '+' :: rest => minutes rest 1
    | '-' :: rest => minutes rest (-1)
    | _ => []
  | zoneName =>
    (readName ["utc", "gmt"] cs).map fun (_, rest) => ({ s with offset := some 0 }, rest)
  | weekdayShort => (readName (weekdayNames.map short) cs).map fun (_, rest) => (s, rest)
  | weekdayName => (readName weekdayNames cs).map fun (_, rest) => (s, rest)
  | half => (readName ["am", "pm"] cs).map fun (_, rest) => (s, rest)
where
  named (names : List String) : List (Stamp × List Char) :=
    (readName names cs).map fun (i, rest) => ({ s with month := some (i + 1) }, rest)
  minutes (rest : List Char) (sign : Int) : List (Stamp × List Char) :=
    ((StandardDay.readOffset? rest).map fun (n, rest) =>
      ({ s with offset := some (sign * 60 * n) }, rest)).toList

/-- A text that stands for itself, whatever the case of its letters; a blank stands for any run of
blanks. -/
def readLiteral (text : String) (cs : List Char) : List (List Char) :=
  if text == " " then
    let blanks := cs.takeWhile Text.isBlank
    ((List.range blanks.length).reverse.map (· + 1)).map (cs.drop ·)
  else if Text.lower (String.ofList (cs.take text.length)) == Text.lower text then
    [cs.drop text.length]
  else []

def readPieces (s : Stamp) (cs : List Char) : List Piece → List (Stamp × List Char)
  | [] => [(s, cs)]
  | .literal text :: rest => (readLiteral text cs).flatMap fun cs => readPieces s cs rest
  | .place p :: rest => (p.read s cs).flatMap fun (s, cs) => readPieces s cs rest

/-- What a text says in a layout: the first way to read the pieces must reach its end. -/
def match? (pieces : List Piece) (text : String) : Option Stamp :=
  match readPieces {} (text.toList.map Number.plainDigit) pieces with
  | (s, []) :: _ => if s.date?.isSome then some s else none
  | _ => none

/-- The layout of a text, what it does not say of its day being that of today. It has to read the
text itself. -/
def ofText? (text : String) (today : Date) : Option (List Piece) := do
  let s ← WrittenDay.read? text today true
  let (slots, found) := shapes.foldl (findShape s) (joinOffset s (tokens text), [])
  let pieces ← pieces? slots found
  if (match? pieces text).isSome then some pieces else none

end SalesDesk.DayLayout
