import SalesDesk.Calendar.Date
import SalesDesk.Number.Reading
import SalesDesk.Report.Result
import SalesDesk.Value.Written

/-! How figures are written: grouped digits, currency, units, percent and days. -/
namespace SalesDesk

/-- The last three digits stay together; the ones before them go by twos or by threes. -/
inductive DigitGrouping
  | indian | western
deriving DecidableEq

namespace DigitGrouping

def name : DigitGrouping → String
  | indian => "indian"
  | western => "western"

def size : DigitGrouping → Nat
  | indian => 2
  | western => 3

def ofName? (name : String) : Option DigitGrouping := [indian, western].find? (·.name == name)

end DigitGrouping

structure Style where
  symbol : String := "₹"
  grouping : DigitGrouping := .indian
  unitSuffix : String := " units"

namespace Style

def make (symbol grouping unitSuffix : String) : Except Fault Style :=
  match DigitGrouping.ofName? grouping with
  | some grouping => .ok { symbol, grouping, unitSuffix }
  | none => .error (.badGrouping grouping)

end Style

namespace Format

/-- Commas between digits, last digit first; `left` digits go on without a comma. -/
def withCommas (size left : Nat) : List Char → List Char
  | [] => []
  | c :: rest =>
    if left = 0 then ',' :: c :: withCommas size (size - 1) rest
    else c :: withCommas size (left - 1) rest

def groupDigits (g : DigitGrouping) (ds : List Char) : List Char :=
  (withCommas g.size 3 ds.reverse).reverse

/-- Group a text as if it were digits. By threes, a long text must be an integer. -/
def groupText (g : DigitGrouping) (s : String) : Except Fault String :=
  if s.length ≤ 3 then .ok s
  else
    match g with
    | .indian => .ok (String.ofList (groupDigits g s.toList))
    | .western =>
      match Number.readInt s with
      | .value n =>
        let ds := String.ofList (groupDigits g (Number.digits n.natAbs))
        .ok (if n < 0 then "-" ++ ds else ds)
      | .tooLong digits => .error (.tooManyDigits (some digits))
      | .malformed => .error (.notAnInteger s)

def missing : String := "n/a"

def size (g : DigitGrouping) (places : Nat) (x : Float) : String :=
  let (whole, fraction) := Number.sizeDigits x places
  String.ofList (Number.joinPoint (groupDigits g whole) fraction)

/-- Is the double shown with a digit other than zero? -/
def showsDigits (places : Nat) (x : Float) : Bool :=
  let (whole, fraction) := Number.sizeDigits x places
  (whole ++ fraction).any (· != '0')

/-- A finite double with so many places. What rounds to zero has no sign. -/
def finite (g : DigitGrouping) (places : Nat) (x : Float) : String :=
  (if x < 0 && showsDigits places x then "-" else "") ++ size g places x

def ofInt (n : Int) : Except Fault Float :=
  match Number.ofInt? n with
  | some x => .ok x
  | none => .error .tooLarge

/-- The finite double that a value says, if it says one. -/
def figure? : Cell Float → Except Fault (Option Float)
  | .absent | .day _ => .ok none
  | .figure x => .ok (if x.isFinite then some x else none)
  | .count n => some <$> ofInt n
  | .text s => .ok ((Number.readFloat? s).filter (·.isFinite))
  | .given (.bool b) => .ok (some (if b then 1.0 else 0.0))
  | .given _ => .ok none

def valueOf : Cell Float → Value
  | .absent => .null
  | .figure x => .number x
  | .count n => .int n
  | .text s => .text s
  | .day d => .date d
  | .given v => v

def maxPlaces : Int := 0x7fffffff

def number (g : DigitGrouping) (places : Int) (v : Cell Float) : Except Fault String := do
  match ← figure? v with
  | none => return missing
  | some x =>
    if places < 0 || maxPlaces < places then throw (.badPlaces places)
    return finite g places.toNat x

/-- Symbol and two places. The sign stands before the symbol; a text has no size. -/
def currency (s : Style) (v : Cell Float) : Except Fault String := do
  match ← figure? v with
  | none => return missing
  | some x =>
    if v matches .text _ then throw (.notAnAmount (valueOf v))
    return (if x < 0 then "-" else "") ++ s.symbol ++ size s.grouping 2 x

def quantity (s : Style) (v : Cell Float) : Except Fault String := do
  match ← figure? v with
  | none => return missing
  | some x => return finite s.grouping 0 x ++ s.unitSuffix

def decimalQuantity (s : Style) (v : Cell Float) : Except Fault String := do
  match ← figure? v with
  | none => return missing
  | some x => return finite s.grouping 2 x ++ s.unitSuffix

/-- The integer part of a figure; a text must hold an integer. -/
def wholeOf (v : Cell Float) (x : Float) : Except Fault Int :=
  match v with
  | .text s =>
    match Number.readInt s with
    | .value n => .ok n
    | .tooLong digits => .error (.tooManyDigits (some digits))
    | .malformed => .error (.notAnInteger s)
  | .count n => .ok n
  | _ => .ok (Number.integerPart x)

def count (s : Style) (v : Cell Float) : Except Fault String := do
  match ← figure? v with
  | none => return missing
  | some x => return finite s.grouping 0 (← ofInt (← wholeOf v x))

/-- Two places without groups. Every negative double keeps its sign. -/
def percent (v : Cell Float) : Except Fault String := do
  match ← figure? v with
  | none => return missing
  | some x =>
    let (whole, fraction) := Number.sizeDigits x 2
    return (if Number.signed x then "-" else "") ++
      String.ofList (Number.joinPoint whole fraction) ++ "%"

def day (v : Cell Float) : String :=
  match valueOf v with
  | .date d => d.slashed
  | .moment m => m.date.slashed
  | other => other.shown

inductive Kind
  | currency | quantity | decimalQuantity | count | percent | day

def kinds : List (String × Kind) := [
  ("revenue", .currency), ("amount", .currency), ("avg_revenue", .currency),
  ("avg_order_value", .currency), ("quantity", .quantity), ("avg_quantity", .decimalQuantity),
  ("orders", .count), ("transactions", .count), ("customers", .count), ("items", .count),
  ("groups", .count), ("regions", .count), ("records", .count), ("count", .count),
  ("months", .count), ("growth", .percent), ("date", .day), ("start", .day), ("end", .day)]

def stem (name : String) : String := String.ofList (name.toList.takeWhile (· != ':'))

def plain (v : Cell Float) : String :=
  let v := valueOf v
  if v.isAbsent then "Unknown" else v.shown

def written (v : Cell Float) (text : String) : Except Fault String := (valueOf v).written text

def entry (s : Style) (name : String) (v : Cell Float) : Except Fault String :=
  match kinds.lookup (stem name) with
  | some .currency => currency s v
  | some .quantity => quantity s v
  | some .decimalQuantity => decimalQuantity s v
  | some .count => count s v
  | some .percent => percent v
  | some .day => written v (day v)
  | none => written v (plain v)

end Format

end SalesDesk
