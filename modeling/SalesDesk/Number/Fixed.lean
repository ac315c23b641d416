import SalesDesk.Number.Rounding

/-! Decimal text with a fixed number of places. -/
namespace SalesDesk.Number

def digits (n : Nat) : List Char := Nat.toDigits 10 n

def padLeft (width : Nat) (cs : List Char) : List Char :=
  List.replicate (width - cs.length) '0' ++ cs

/-- Whole and decimal digits of `num / den` rounded to so many places. -/
def fixedDigits (num den places : Nat) : List Char × List Char :=
  let scale := Nat.pow 10 places
  let n := roundHalfEven (num * scale) den
  (digits (n / scale), if places = 0 then [] else padLeft places (digits (n % scale)))

/-- After so many places every double is exact. -/
def exactPlaces : Nat := 1074

def sizeDigits (x : Float) (places : Nat) : List Char × List Char :=
  let (num, den) := (magnitude x).quotient
  let (whole, fraction) := fixedDigits num den (min places exactPlaces)
  (whole, fraction ++ List.replicate (places - exactPlaces) '0')

/-- Digits joined by a point, which is left out when no places are asked for. -/
def joinPoint (whole fraction : List Char) : List Char :=
  if fraction.isEmpty then whole else whole ++ '.' :: fraction

end SalesDesk.Number
