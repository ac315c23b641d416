import SalesDesk.Number.Fixed

/-!
The shortest decimal that reads back as a double. For one digit, two digits and so on, the two
neighbours of the value on that decimal grid are tried; the first grid with a hit wins, and of two
hits the nearer one.
-/
namespace SalesDesk.Number

structure Decimal where
  digits : Nat
  exponent : Int

abbrev Ratio := Nat × Nat

def Ratio.le (a b : Ratio) : Bool := a.1 * b.2 ≤ b.1 * a.2

def Ratio.lt (a b : Ratio) : Bool := a.1 * b.2 < b.1 * a.2

def Ratio.distance (a b : Ratio) : Ratio :=
  (max (a.1 * b.2) (b.1 * a.2) - min (a.1 * b.2) (b.1 * a.2), a.2 * b.2)

def scaled (base n : Nat) (exponent : Int) : Ratio :=
  if 0 ≤ exponent then (n * Nat.pow base exponent.toNat, 1) else (n, Nat.pow base (-exponent).toNat)

/-- The reals that round to a double lie between `low` and `high`; an even double owns both ends. -/
structure Interval where
  low : Ratio
  high : Ratio
  closed : Bool

def Interval.holds (i : Interval) (r : Ratio) : Bool :=
  if i.closed then i.low.le r && r.le i.high else i.low.lt r && r.lt i.high

def interval (m : Magnitude) : Interval :=
  let below := if m.significand == leadingBit && m.exponent > -1074 then 1 else 2
  ⟨scaled 2 (4 * m.significand - below) (m.exponent - 2),
    scaled 2 (4 * m.significand + 2) (m.exponent - 2), m.significand % 2 == 0⟩

def pointPlace (num den : Nat) : Int :=
  ((digits (num * Nat.pow 10 400 / den)).length : Int) - 400

/-- The hit on the grid of `10 ^ exponent`, if one of the two neighbours is in the interval. -/
def gridHit? (i : Interval) (value : Ratio) (exponent : Int) : Option Decimal :=
  let (num, den) :=
    if 0 ≤ exponent then (value.1, value.2 * Nat.pow 10 exponent.toNat)
    else (value.1 * Nat.pow 10 (-exponent).toNat, value.2)
  let n := num / den
  let lower := scaled 10 n exponent
  let upper := scaled 10 (n + 1) exponent
  match i.holds lower, i.holds upper with
  | false, false => none
  | true, false => some ⟨n, exponent⟩
  | false, true => some ⟨n + 1, exponent⟩
  | true, true =>
    let down := Ratio.distance value lower
    let up := Ratio.distance value upper
    some (if down.lt up || (down.le up && n % 2 == 0) then ⟨n, exponent⟩ else ⟨n + 1, exponent⟩)

/-- The shortest decimal for the size of a finite double other than zero. -/
def shortest (m : Magnitude) : Decimal :=
  let value := m.quotient
  let place := pointPlace value.1 value.2
  let hits := (List.range 17).filterMap fun k =>
    gridHit? (interval m) value (place - (k + 1 : Nat))
  hits.headD ⟨m.significand, 0⟩

/-- How a double is written: which powers of ten are positional, and how the others look. -/
structure DoubleFormat where
  positionalFrom : Int
  positionalBelow : Int
  exponentMark : Char
  exponentWidth : Nat
  nan : String
  infinity : String

def trimZeros (cs : List Char) : List Char := (cs.reverse.dropWhile (· == '0')).reverse

/-- Significant digits `ds` with the point before the digit number `point`. -/
def positional (ds : List Char) (point : Int) : List Char :=
  if point ≤ 0 then '0' :: '.' :: (List.replicate (-point).toNat '0' ++ ds)
  else if ds.length ≤ point.toNat then
    ds ++ List.replicate (point.toNat - ds.length) '0' ++ ['.', '0']
  else ds.take point.toNat ++ '.' :: ds.drop point.toNat

def withExponent (f : DoubleFormat) (ds : List Char) (exponent : Int) : List Char :=
  joinPoint (ds.take 1) (ds.drop 1) ++ f.exponentMark ::
    (if exponent < 0 then '-' else '+') :: padLeft f.exponentWidth (digits exponent.natAbs)

def DoubleFormat.size (f : DoubleFormat) (x : Float) : List Char :=
  let m := magnitude x
  if m.significand = 0 then ['0', '.', '0']
  else
    let d := shortest m
    let all := digits d.digits
    let point := d.exponent + all.length
    let exponent := point - 1
    if f.positionalFrom ≤ exponent && exponent < f.positionalBelow then
      positional (trimZeros all) point
    else withExponent f (trimZeros all) exponent

def DoubleFormat.text (f : DoubleFormat) (x : Float) : String :=
  if x.isNaN then f.nan
  else
    let sign := if signed x then "-" else ""
    sign ++ if x.isInf then f.infinity else String.ofList (f.size x)

def plainDouble : DoubleFormat := ⟨-4, 16, 'e', 2, "nan", "inf"⟩

def jsonDouble : DoubleFormat := { plainDouble with nan := "NaN", infinity := "Infinity" }

end SalesDesk.Number
