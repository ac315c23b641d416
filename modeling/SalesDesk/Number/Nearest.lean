import SalesDesk.Number.Rounding

/-! The double nearest to a quotient of natural numbers, a tie going to the even neighbour. -/
namespace SalesDesk.Number

/-- The power of two that is at most `num / den`, where the next one is larger. -/
def floorLog (num den : Nat) : Int :=
  let e : Int := Int.ofNat num.log2 - Int.ofNat den.log2
  let reached :=
    if 0 ≤ e then den * Nat.pow 2 e.toNat ≤ num else den ≤ num * Nat.pow 2 (-e).toNat
  if reached then e else e - 1

/-- The bits of the double of the size `num / den`. Sizes beyond the range are infinite, and those
below it come down to zero. -/
def nearestBits (num den : Nat) : Nat :=
  if num = 0 then 0
  else
    let shift := max (floorLog num den - 52) (-1074)
    let n :=
      if 0 ≤ shift then roundHalfEven num (den * Nat.pow 2 shift.toNat)
      else roundHalfEven (num * Nat.pow 2 (-shift).toNat) den
    if n < leadingBit then n
    else min ((shift + 1075).toNat * leadingBit + (n - leadingBit)) (2047 * leadingBit)

def nearest (num den : Nat) : Float := Float.ofBits (nearestBits num den).toUInt64

/-- The double nearest to a quotient of integers. -/
def nearestQuotient (num : Int) (den : Int) : Float :=
  let x := nearest num.natAbs den.natAbs
  if num < 0 && 0 < den || 0 < num && den < 0 then -x else x

/-- The double nearest to an integer, infinite beyond the range of doubles. -/
def ofInt (n : Int) : Float := nearestQuotient n 1

/-- The double nearest to an integer, `none` beyond the range of doubles. -/
def ofInt? (n : Int) : Option Float :=
  let x := ofInt n
  if x.isFinite then some x else none

end SalesDesk.Number
