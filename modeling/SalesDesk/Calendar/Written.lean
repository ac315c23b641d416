import SalesDesk.Calendar.Period
import SalesDesk.Calendar.Stamp
import SalesDesk.Calendar.Token

/-!
Days and times written freely. Numbers and the names of months are collected as the parts of a
day; numbers with a colon, a unit or a half of the day are times; a zone may follow a time; small
words like `of` and `th` mean nothing. Which part is the year, the month and the day is decided at
the end.
-/
namespace SalesDesk.WrittenDay

inductive PartKind
  | plain | year | month
deriving DecidableEq

structure Part where
  value : Nat
  kind : PartKind

structure Found where
  parts : List Part := []
  hour : Option Nat := none
  minute : Option Nat := none
  second : Option Nat := none
  nano : Nat := 0
  weekday : Option Nat := none
  zone : Option String := none
  offset : Option Int := none

namespace Found

def has (f : Found) (kind : PartKind) : Bool := f.parts.any (·.kind == kind)

def valueOf? (f : Found) (kind : PartKind) : Option Nat :=
  (f.parts.find? (·.kind == kind)).map (·.value)

/-- Add a part; a day has one year and one month by name. -/
def add? (f : Found) (p : Part) : Option Found :=
  if p.kind != .plain && f.has p.kind then none else some { f with parts := f.parts ++ [p] }

/-- Add digits. More than two of them make a year. -/
def addDigits? (f : Found) (ds : List Char) : Option Found :=
  f.add? ⟨Number.digitsToNat ds, if 2 < ds.length then .year else .plain⟩

/-- Add a number that stands alone; more than a hundred is a year. -/
def addNumeral? (f : Found) (n : Numeral) : Option Found :=
  f.add? ⟨n.floor, if n.exceeds 100 then .year else .plain⟩

def addMonth? (f : Found) (month : Nat) : Option Found := f.add? ⟨month, .month⟩

def couldBeDay (f : Found) (n : Numeral) : Bool :=
  let last :=
    match f.valueOf? .month with
    | none => 31
    | some month => Date.daysInMonth ((f.valueOf? .year).getD 2000) month
  1 ≤ n.floor && !n.exceeds last

def setMinute (f : Found) (n : Numeral) : Found :=
  { f with
    minute := some n.floor
    second := if n.hasRemainder then some n.sixtieths else none }

def setSecond (f : Found) (n : Numeral) : Found :=
  { f with second := some n.floor, nano := n.decimals 9 }

def setHour (f : Found) (n : Numeral) : Found :=
  { f with
    hour := some n.floor
    minute := if n.hasRemainder then some n.sixtieths else f.minute }

end Found

def namedMonth? (w : String) : Option Nat :=
  let w := Text.lower w
  if w == "sept" then some 9
  else
    (monthNames.findIdx? fun name => name == w || String.ofList (name.toList.take 3) == w).map
      (· + 1)

def weekdayNames : List String :=
  ["monday", "tuesday", "wednesday", "thursday", "friday", "saturday", "sunday"]

def namedWeekday? (w : String) : Option Nat :=
  let w := Text.lower w
  weekdayNames.findIdx? fun name => name == w || String.ofList (name.toList.take 3) == w

def half? (w : String) : Option Bool :=
  [("am", false), ("a", false), ("pm", true), ("p", true)].lookup (Text.lower w)

/-- The units of a time, each one part of the one before it. -/
inductive ClockUnit
  | hour | minute | second

namespace ClockUnit

def ofWord? (w : String) : Option ClockUnit :=
  [("h", hour), ("hour", hour), ("hours", hour), ("m", minute), ("minute", minute),
    ("minutes", minute), ("s", second), ("second", second), ("seconds", second)].lookup
      (Text.lower w)

def smaller? : ClockUnit → Option ClockUnit
  | hour => some minute
  | minute => some second
  | second => none

end ClockUnit

def Token.unit? : Token → Option ClockUnit
  | .word w => ClockUnit.ofWord? w
  | _ => none

def Token.half? : Token → Option Bool
  | .word w => WrittenDay.half? w
  | _ => none

/-- Words and marks without a meaning of their own. -/
def isFiller : Token → Bool
  | .space => true
  | .mark c => ['.', ',', ';', '-', '/', '\x27'].contains c
  | .word w =>
    ["at", "on", "and", "ad", "m", "t", "of", "st", "nd", "rd", "th"].contains (Text.lower w)
  | _ => false

abbrev Step := Option (Found × List Token)

def unitAfter? : List Token → Option (ClockUnit × List Token)
  | .space :: t :: rest => t.unit?.map (·, rest)
  | t :: rest => t.unit?.map (·, rest)
  | [] => none

/-- The unit before a number; at the end of the text a blank may stand between them. -/
def unitBefore? (past rest : List Token) : Option ClockUnit :=
  match past with
  | .space :: t :: _ => if rest.isEmpty then t.unit? else none
  | t :: _ => t.unit?
  | [] => none

def assign (f : Found) (unit : Option ClockUnit) (n : Numeral) : Found :=
  match unit with
  | some .hour => f.setHour n
  | some .minute => f.setMinute n
  | some .second => f.setSecond n
  | none => f

def addSeparated? (f : Found) : Token → Option Found
  | .number n => if n.isInteger then f.addDigits? n.whole else none
  | .word w => (namedMonth? w).bind f.addMonth?
  | _ => none

def readJoined? (f : Found) (n : Numeral) (separator : Char) (rest : List Token) : Step := do
  if !n.isInteger then none
  let f ← f.addDigits? n.whole
  match rest with
  | [] => return (f, [])
  | next :: rest =>
    if isFiller next then return (f, next :: rest)
    let f ← addSeparated? f next
    match rest with
    | .mark c :: more =>
      if c != separator then return (f, rest)
      match more with
      | last :: more => return (← addSeparated? f last, more)
      | [] => none
    | _ => return (f, rest)

def clockDigits (ds : List Char) (place : Nat) : Option Nat :=
  some (Number.digitsToNat ((ds.drop place).take 2))

/-- Six digits are a day of two-digit parts, or a time if there are parts before them or a fraction
behind. -/
def readSix? (f : Found) (n : Numeral) : Option Found :=
  let ds := n.whole
  if ds.length != 6 then none
  else if f.parts.isEmpty && n.isInteger then do
    let f ← f.addDigits? (ds.take 2)
    let f ← f.addDigits? ((ds.drop 2).take 2)
    f.addDigits? (ds.drop 4)
  else
    some
      { f with
        hour := clockDigits ds 0
        minute := clockDigits ds 2
        second := clockDigits ds 4
        nano := n.decimals 9 }

def readPacked? (f : Found) (n : Numeral) : Option Found := do
  let ds := n.whole
  if !n.isInteger then none
  let f ← f.addDigits? (ds.take 4)
  let f ← f.addDigits? ((ds.drop 4).take 2)
  let f ← f.addDigits? ((ds.drop 6).take 2)
  if ds.length == 8 then return f
  let f := { f with hour := clockDigits ds 8, minute := clockDigits ds 10 }
  return if ds.length == 12 then f else { f with second := clockDigits ds 12 }

def readLate? (f : Found) (n : Numeral) : Option Found :=
  let ds := n.whole
  if !n.isInteger then none
  else if ds.length == 2 then some { f with hour := clockDigits ds 0 }
  else some { f with hour := clockDigits ds 0, minute := clockDigits ds 2 }

def readClock? (f : Found) (hour : Numeral) : List Token → Step
  | .number minute :: rest =>
    let f := { f.setMinute minute with hour := some hour.floor }
    match rest with
    | .mark ':' :: .number second :: more => some (f.setSecond second, more)
    | .mark ':' :: _ :: _ => none
    | _ => some (f, rest)
  | _ => none

def hourOf (n : Nat) (afternoon : Bool) : Nat :=
  if n < 12 && afternoon then n + 12 else if n == 12 && !afternoon then 0 else n

/-- A number with nothing or a filling token behind it: an hour if a half of the day follows, else a
part of the day. -/
def readLone? (f : Found) (n : Numeral) (rest : List Token) : Step :=
  let more := rest.drop 1
  match more.head?.bind Token.half? with
  | some half => some ({ f with hour := some (hourOf n.floor half) }, more.drop 1)
  | none => (f.addNumeral? n).map (·, more)

def readNumber? (f : Found) (past : List Token) (n : Numeral) (rest : List Token) : Step :=
  let next := rest.head?
  if f.parts.length == 3 && (n.width == 2 || n.width == 4) && f.hour.isNone &&
      !next.any (fun t => (t matches .mark ':') || t.unit?.isSome) then
    (readLate? f n).map (·, rest)
  else if n.width == 6 || (n.whole.length == 6 && !n.isInteger) then (readSix? f n).map (·, rest)
  else if [8, 12, 14].contains n.width then (readPacked? f n).map (·, rest)
  else
    match unitAfter? rest with
    | some (unit, more) => some (assign f (some unit) n, more)
    | none =>
      match unitBefore? past rest with
      | some unit => some (assign f unit.smaller? n, rest)
      | none =>
        match rest with
        | .mark ':' :: t :: more => readClock? f n (t :: more)
        | .mark c :: more =>
          if c == '-' || c == '/' || c == '.' then readJoined? f n c more
          else if isFiller (.mark c) then readLone? f n rest
          else if f.couldBeDay n then (f.addNumeral? n).map (·, rest)
          else none
        | [] => readLone? f n rest
        | t :: more =>
          if isFiller t then readLone? f n rest
          else
            match t.half? with
            | some half =>
              if n.floor < 24 then some ({ f with hour := some (hourOf n.floor half) }, more)
              else if f.couldBeDay n then (f.addNumeral? n).map (·, rest)
              else none
            | none => if f.couldBeDay n then (f.addNumeral? n).map (·, rest) else none

/-- Years of two digits lie within half a century of the current one. -/
def fullYear (current n : Nat) : Nat :=
  if 100 ≤ n then n
  else
    let year := current / 100 * 100 + n
    if current + 50 ≤ year then year - 100 else if year + 50 < current then year + 100 else year

/-- The name of a month, with the numbers that a separator joins to it. Digits after `of` are its
year. -/
def readMonth? (current : Nat) (f : Found) (month : Nat) (rest : List Token) : Step := do
  let f ← f.addMonth? month
  match rest with
  | .mark c :: more =>
    if c != '-' && c != '/' then return (f, rest)
    match more with
    | .number n :: more =>
      if !n.isInteger then none
      let f ← f.addDigits? n.whole
      match more with
      | .mark d :: last :: more =>
        if d != c then return (f, .mark d :: last :: more)
        match last with
        | .number n => if n.isInteger then return (← f.addDigits? n.whole, more) else none
        | _ => none
      | [.mark d] => if d == c then none else return (f, more)
      | _ => return (f, more)
    | _ => none
  | .space :: .word w :: .space :: t :: more =>
    if Text.lower w != "of" then return (f, rest)
    match t with
    | .number n =>
      if !n.isInteger then return (f, more)
      return (← f.add? ⟨fullYear current n.floor, .year⟩, more)
    | _ => return (f, more)
  | _ => return (f, rest)

def isUniversal (name : String) : Bool := ["utc", "gmt", "z"].contains (Text.lower name)

def couldBeZone (f : Found) (name : String) : Bool :=
  f.hour.isSome && f.zone.isNone && name.length ≤ 5 &&
    (name.toList.all (fun c => 'A' ≤ c && c ≤ 'Z') || name == "z")

def readZoneName (f : Found) : List Token → Found × List Token
  | t :: .mark '(' :: .word w :: .mark ')' :: rest =>
    if isFiller t && 3 ≤ w.length && couldBeZone f w then ({ f with zone := some w }, rest)
    else (f, t :: .mark '(' :: .word w :: .mark ')' :: rest)
  | rest => (f, rest)

def readOffset? (f : Found) (ahead : Bool) : List Token → Step
  | .number n :: rest => do
    if !n.isInteger then none
    let ds := n.whole
    let (seconds, rest) ←
      if ds.length == 4 then
        some (3600 * Number.digitsToNat (ds.take 2) + 60 * Number.digitsToNat (ds.drop 2), rest)
      else
        match rest with
        | .mark ':' :: .number m :: more =>
          if m.isInteger then some (3600 * n.floor + 60 * m.floor, more) else none
        | .mark ':' :: _ => none
        | _ => if ds.length ≤ 2 then some (3600 * n.floor, rest) else none
    let offset : Int := if ahead then seconds else -seconds
    return readZoneName { f with offset := some offset } rest
  | _ => none

/-- The name of a zone. Hours behind it with a sign say how far this zone is ahead of ours. -/
def readZone? (f : Found) (name : String) (rest : List Token) : Step :=
  let f := { f with zone := some name, offset := if name == "z" then some 0 else none }
  let turned := { f with offset := none, zone := if isUniversal name then none else some name }
  match rest with
  | .mark '+' :: more => readOffset? turned false more
  | .mark '-' :: more => readOffset? turned true more
  | _ => some (f, rest)

def readWord? (current : Nat) (f : Found) (w : String) (rest : List Token) : Step :=
  match namedWeekday? w, namedMonth? w, half? w with
  | some weekday, _, _ => some ({ f with weekday := some weekday }, rest)
  | none, some month, _ => readMonth? current f month rest
  | none, none, some half => do
    let hour ← f.hour
    if hour ≤ 12 then some ({ f with hour := some (hourOf hour half) }, rest) else none
  | none, none, none =>
    if f.offset.isNone && couldBeZone f w then readZone? f w rest
    else if isFiller (.word w) then some (f, rest)
    else none

def step? (current : Nat) (f : Found) (past : List Token) (t : Token) (rest : List Token) : Step :=
  match t with
  | .number n => readNumber? f past n rest
  | .word w => readWord? current f w rest
  | .mark c =>
    if f.hour.isSome && (c == '+' || c == '-') then readOffset? f (c == '+') rest
    else if isFiller t then some (f, rest)
    else none
  | .space => some (f, rest)
  | .tangle => none

/-- Read all tokens; each step takes at least one. The tokens that were read stand by, the last one
first. -/
def readAll? (current fuel : Nat) (f : Found) (past : List Token) : List Token → Option Found
  | [] => some f
  | t :: rest =>
    match fuel with
    | 0 => none
    | fuel + 1 =>
      (step? current f past t rest).bind fun (f, left) =>
        let taken := (t :: rest).take (rest.length + 1 - left.length)
        readAll? current fuel f (taken.reverse ++ past) left

structure Fields where
  year : Option Nat := none
  month : Option Nat := none
  day : Option Nat := none

/-- A number beside another part is a year if it can be no day. -/
def yearOrDay (f : Fields) (n : Nat) : Fields :=
  if n > 31 then { f with year := some n } else { f with day := some n }

/-- Which parts are which. Without names and long numbers, the month comes first unless it can be
none. -/
def resolve? : List Part → Option Fields
  | [] => some {}
  | [⟨n, .month⟩] => some { month := some n }
  | [⟨n, .year⟩] => some { year := some n }
  | [⟨n, .plain⟩] => some (yearOrDay {} n)
  | [⟨m, .month⟩, ⟨n, kind⟩] | [⟨n, kind⟩, ⟨m, .month⟩] =>
    let f : Fields := { month := some m }
    some (if kind == .year then { f with year := some n } else yearOrDay f n)
  | [⟨a, _⟩, ⟨b, _⟩] =>
    some <|
      if a > 31 then { year := some a, month := some b }
      else if b > 31 then { month := some a, year := some b }
      else { month := some a, day := some b }
  | [⟨a, .month⟩, ⟨b, kb⟩, ⟨c, kc⟩] =>
    some <|
      if kb == .year || (kc != .year && b > 31) then ⟨some b, some a, some c⟩
      else ⟨some c, some a, some b⟩
  | [⟨a, ka⟩, ⟨b, .month⟩, ⟨c, kc⟩] =>
    some <|
      if ka == .year || (kc != .year && a > 31) then ⟨some a, some b, some c⟩
      else ⟨some c, some b, some a⟩
  | [⟨a, ka⟩, ⟨b, kb⟩, ⟨c, .month⟩] =>
    some <|
      if kb == .year || (ka != .year && b > 31) then ⟨some b, some c, some a⟩
      else ⟨some a, some c, some b⟩
  | [⟨a, ka⟩, ⟨b, _⟩, ⟨c, _⟩] =>
    some <|
      if a > 31 || ka == .year then ⟨some a, some b, some c⟩
      else if a > 12 then ⟨some c, some b, some a⟩
      else ⟨some c, some a, some b⟩
  | _ => none

/-- The zone of a time: by its hours, or universal time by one of its names. Other names alone say
nothing. -/
def zoneOffset? (f : Found) : Option (Option Int) :=
  match f.zone with
  | none => some f.offset
  | some name =>
    if isUniversal name then some (some 0)
    else if f.offset.isSome then some f.offset
    else none

/-- The day that fields say, what is left open being that of today. The last day of a month stands
for the days that it lacks, and a weekday alone is the next one. -/
def Fields.nearest? (f : Fields) (weekday : Option Nat) (today : Date) : Option Date :=
  let year := f.year.getD today.year
  let month := f.month.getD today.month
  match f.day with
  | some day => Date.ofParts? year month day
  | none => do
    let d ← Date.ofParts? year month (min today.day (Date.daysInMonth year month))
    match weekday with
    | none => return d
    | some n => d.onWeekday? n

/-- Year, month and day as the parts say them. Today tells the century of a year, and all that is
left open if `fill` is set; otherwise a weekday needs its day. -/
def Found.day? (f : Found) (today : Date) (fill : Bool) : Option Fields := do
  let day ← resolve? f.parts
  let year := day.year.map fun n => if f.has .year then n else fullYear today.year n
  let day := { day with year }
  if fill then
    let d ← day.nearest? f.weekday today
    return ⟨some d.year, some d.month, some d.day⟩
  else if f.weekday.isSome && day.day.isNone then none
  else return day

/-- What the parts say together. The day must be on the calendar and the time on the clock. -/
def Found.stamp? (f : Found) (today : Date) (fill : Bool) : Option Stamp := do
  let day ← f.day? today fill
  let s : Stamp := {
    year := day.year, month := day.month, day := day.day
    hour := f.hour, minute := f.minute, second := f.second, nano := f.nano
    offset := ← zoneOffset? f }
  if f.parts.isEmpty && f.hour.isNone && f.minute.isNone && f.second.isNone then none
  if s.date?.isSome && s.hasClockTime && s.hasZone then some s else none

def read? (s : String) (today : Date) (fill : Bool) : Option Stamp :=
  let ts := tokens s
  (readAll? today.year ts.length {} [] ts).bind (·.stamp? today fill)

end SalesDesk.WrittenDay
