import SalesDesk.Number.Nearest
import SalesDesk.Number.Shortest

/-!
Amounts and quantities. The analysis is stated for every kind of number with this arithmetic: it
runs on doubles, and on rationals it is exact.
-/
namespace SalesDesk

class Figure (α : Type) extends Add α, Sub α, Mul α, Div α where
  ofInt : Int → α
  less : α → α → Bool
  isZero : α → Bool
  /-- No number at all. -/
  isMissing : α → Bool
  isFinite : α → Bool
  text : α → String

instance : Figure Float where
  ofInt := Number.ofInt
  less x y := x < y
  isZero x := x == 0.0
  isMissing := Float.isNaN
  isFinite := Float.isFinite
  text := Number.plainDouble.text

instance : Figure Rat where
  ofInt n := n
  less x y := x < y
  isZero x := x == 0
  isMissing _ := false
  isFinite _ := true
  text x := toString x

namespace Figure

variable {α : Type} [Figure α]

def zero : α := ofInt 0

def sum (xs : List α) : α := xs.foldl (· + ·) zero

def sumFromFirst : List α → α
  | [] => zero
  | x :: rest => rest.foldl (· + ·) x

/-- Add rows of eight figures to eight running sums; the figures left over come back. -/
def addLanes : Nat → List α → List α → List α × List α
  | 0, lanes, xs => (lanes, xs)
  | rows + 1, lanes, xs => addLanes rows (List.zipWith (· + ·) lanes (xs.take 8)) (xs.drop 8)

def joinLanes : List α → α
  | [a, b, c, d, e, f, g, h] => ((a + b) + (c + d)) + ((e + f) + (g + h))
  | lanes => sum lanes

/-- A short column is added in eight lanes; what they leave over follows in order. -/
def laneSum (xs : List α) : α :=
  if xs.length < 8 then sumFromFirst xs
  else
    let (lanes, rest) := addLanes (xs.length / 8 - 1) (xs.take 8) (xs.drop 8)
    rest.foldl (· + ·) (joinLanes lanes)

/-- A long column is added in halves, the first of them a multiple of eight. -/
def halvedSum : Nat → List α → α
  | 0, xs => laneSum xs
  | depth + 1, xs =>
    if xs.length ≤ 128 then laneSum xs
    else
      let half := xs.length / 2 - xs.length / 2 % 8
      halvedSum depth (xs.take half) + halvedSum depth (xs.drop half)

/-- The total of a column. What is no number counts as zero. -/
def total (xs : List α) : α :=
  zero + halvedSum xs.length (xs.map fun x => if isMissing x then zero else x)

/-- A running sum, and what rounding has added to it too much. -/
structure Running (α : Type) where
  sum : α
  excess : α

def Running.add (r : Running α) (x : α) : Running α :=
  if isMissing x then r
  else
    let y := x - r.excess
    let t := r.sum + y
    let excess := (t - r.sum) - y
    ⟨t, if isMissing excess then zero else excess⟩

/-- The sum of scattered figures, with the rounding of each step made good in the next one. -/
def scatteredSum (xs : List α) : α := (xs.foldl Running.add ⟨zero, zero⟩).sum

/-- The sum of figures that stand together: the first one, and the total of the others. -/
def runSum : List α → α
  | [] => zero
  | [x] => x
  | x :: rest => x + halvedSum rest.length rest

/-- A quotient that is a finite number, if the divisor is neither zero nor infinite. -/
def divide? (x y : α) : Option α :=
  if isZero y || !isFinite y then none
  else if isFinite (x / y) then some (x / y) else none

def growth? (before after : α) : Option α :=
  (divide? (after - before) before).map (· * ofInt 100)

/-- Neither is smaller than the other, and both are numbers. -/
def same (x y : α) : Bool := !isMissing x && !isMissing y && !less x y && !less y x

def falls (x y : α) : Bool := if isMissing x then isMissing y else isMissing y || !less x y

end Figure

end SalesDesk
