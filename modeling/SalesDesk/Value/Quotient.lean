import SalesDesk.Fault
import SalesDesk.Figure
import SalesDesk.Number.Reading

/-! Quotients of figures that are given from outside. Integers are exact. -/
namespace SalesDesk

inductive Quantum
  | whole (n : Int)
  | double (x : Float)

namespace Quantum

def ofValue : Value → Except Fault Quantum
  | .bool b => .ok (whole (if b then 1 else 0))
  | .number x => .ok (double x)
  | .int n => .ok (whole n)
  | v => .error (.notNumeric v)

def toFloat : Quantum → Except Fault Float
  | double x => .ok x
  | whole n =>
    match Number.ofInt? n with
    | some x => .ok x
    | none => .error .tooLarge

def sub : Quantum → Quantum → Except Fault Quantum
  | whole m, whole n => .ok (whole (m - n))
  | x, y => do return double ((← x.toFloat) - (← y.toFloat))

/-- The quotient of two integers is rounded once. -/
def div : Quantum → Quantum → Except Fault Float
  | whole m, whole n =>
    let x := Number.nearestQuotient m n
    if x.isFinite then .ok x else .error .tooLarge
  | x, y => do return (← x.toFloat) / (← y.toFloat)

end Quantum

namespace Value

/-- The integers that a machine word holds, with a sign or without. -/
def fitsWord (n : Int) : Bool := -0x8000000000000000 ≤ n && n < 0x10000000000000000

mutual

/-- The lengths of nested lists, `none` if lists beside each other differ. -/
def shape? : Value → Option (List Nat)
  | list items =>
    match shapes? items with
    | none => none
    | some [] => some [0]
    | some (s :: rest) => if rest.all (· == s) then some ((rest.length + 1) :: s) else none
  | _ => some []

def shapes? : List Value → Option (List (List Nat))
  | [] => some []
  | v :: rest =>
    match v.shape?, shapes? rest with
    | some s, some more => some (s :: more)
    | _, _ => none

end

mutual

def leaves : Value → List Value
  | list items => itemLeaves items
  | v => [v]

def itemLeaves : List Value → List Value
  | [] => []
  | v :: rest => v.leaves ++ itemLeaves rest

end

/-- May something be divided by the value? Zero, what is not finite and null divide nothing. -/
def divides? : Value → Except Fault Bool
  | null => .ok false
  | bool b => .ok b
  | number x => .ok (x != 0.0 && x.isFinite)
  | int n =>
    if n == 0 then .ok false else if fitsWord n then .ok true else .error .countTooLarge
  | v => .error (.notNumeric v)

/-- Is a value of a list finite? It must be a number of a machine's size. -/
def leafIsFinite : Value → Except Fault Bool
  | bool _ => .ok true
  | number x => .ok x.isFinite
  | int n => if fitsWord n then .ok true else .error .countTooLarge
  | v => .error (.notNumeric v)

/-- A list divides nothing. Only of a single number can it be told whether it is finite. -/
def listDivides? (items : List Value) : Except Fault Bool := do
  if (shape? (list items)).isNone then throw .listDivisor
  let finite ← (itemLeaves items).mapM leafIsFinite
  match finite with
  | [true] => throw (.notNumeric (list items))
  | [false] => return false
  | _ => throw .listDivisor

/-- The quotient of two given numbers, if it is a finite one. -/
def divide? (x y : Value) : Except Fault (Option Float) := do
  let divides ← match y with
    | list items => listDivides? items
    | y => divides? y
  if !divides then return none
  let q ← (← Quantum.ofValue x).div (← Quantum.ofValue y)
  return if q.isFinite then some q else none

def growth? (before after : Value) : Except Fault (Option Float) := do
  let change ← (← Quantum.ofValue after).sub (← Quantum.ofValue before)
  let ratio ← match change with
    | .whole n => divide? (int n) before
    | .double x => divide? (number x) before
  return ratio.map (· * 100.0)

end Value

end SalesDesk
