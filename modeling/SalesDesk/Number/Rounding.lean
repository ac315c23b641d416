/-! Exact rounding of quotients and the exact size of a double. -/
namespace SalesDesk.Number

/-- The natural number nearest to `num / den`, a half going to the even neighbour. -/
def roundHalfEven (num den : Nat) : Nat :=
  let q := num / den
  let r := num % den
  if 2 * r < den then q else if den < 2 * r then q + 1 else q + q % 2

def leadingBit : Nat := 0x10000000000000

/-- The size of a finite double is `significand * 2 ^ exponent`. -/
structure Magnitude where
  significand : Nat
  exponent : Int

def magnitude (x : Float) : Magnitude :=
  let bits := x.toBits.toNat
  let fraction := bits % leadingBit
  let field := bits / leadingBit % 0x800
  if field = 0 then ⟨fraction, -1074⟩ else ⟨fraction + leadingBit, Int.ofNat field - 1075⟩

def Magnitude.quotient (m : Magnitude) : Nat × Nat :=
  if 0 ≤ m.exponent then (m.significand * Nat.pow 2 m.exponent.toNat, 1)
  else (m.significand, Nat.pow 2 (-m.exponent).toNat)

/-- Has the double a minus sign, a negative zero included? -/
def signed (x : Float) : Bool := x.toBits.toNat / 0x8000000000000000 == 1

def integerPart (x : Float) : Int :=
  let (num, den) := (magnitude x).quotient
  if signed x then -(num / den : Nat) else (num / den : Nat)

end SalesDesk.Number
