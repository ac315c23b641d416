import SalesDesk.Number.Nearest
import SalesDesk.Text.Blank
import SalesDesk.Text.Casing

/-!
Numbers written in text. Blanks around them are ignored, digits of every script count, and single
underscores may stand between digits.
-/
namespace SalesDesk.Number

/-- Blanks that may surround a number: outside ASCII every blank, inside it all but separators. -/
def isPadding (c : Char) : Bool :=
  if c.toNat < 127 then c == ' ' || (9 ≤ c.toNat && c.toNat ≤ 13) else Text.isBlank c

def unpad (cs : List Char) : List Char :=
  ((cs.dropWhile isPadding).reverse.dropWhile isPadding).reverse

def plainDigit (c : Char) : Char :=
  match Text.digitValue? c with
  | some v => Char.ofNat ('0'.toNat + v)
  | none => c

/-- The digits of an underscored run, `none` if an underscore does not stand between two digits. -/
def dropUnderscores : List Char → Option (List Char)
  | [] => some []
  | ['_'] => none
  | '_' :: _ :: _ => none
  | c :: '_' :: d :: rest =>
    if c.isDigit && d.isDigit then (dropUnderscores (d :: rest)).map (c :: ·) else none
  | c :: rest => (dropUnderscores rest).map (c :: ·)

def takeSign : List Char → Bool × List Char
  | '-' :: rest => (true, rest)
  | '+' :: rest => (false, rest)
  | cs => (false, cs)

def digitsToNat (ds : List Char) : Nat :=
  ds.foldl (fun n d => 10 * n + (d.toNat - '0'.toNat)) 0

/-- A decimal text in parts: digits before and after the point, and the power of ten. -/
structure DecimalParts where
  whole : List Char
  fraction : List Char
  exponent : Int

def readExponent? : List Char → Option Int
  | [] => some 0
  | mark :: rest =>
    let (negative, ds) := takeSign rest
    if (mark == 'e' || mark == 'E') && !ds.isEmpty && ds.all (·.isDigit) then
      some (if negative then -(digitsToNat ds : Int) else digitsToNat ds)
    else none

/-- A text of digits with at most one point, at least one digit and an optional power of ten. -/
def readParts? (cs : List Char) : Option DecimalParts :=
  let whole := cs.takeWhile (·.isDigit)
  let rest := cs.dropWhile (·.isDigit)
  let (fraction, tail) : List Char × List Char :=
    match rest with
    | '.' :: more => (more.takeWhile Char.isDigit, more.dropWhile Char.isDigit)
    | _ => ([], rest)
  if whole.isEmpty && fraction.isEmpty then none
  else (readExponent? tail).map fun exponent => ⟨whole, fraction, exponent⟩

def infinity : Float := 1.0 / 0.0

def notANumber : Float := 0.0 / 0.0

/-- The double nearest to a decimal; sizes out of range go to infinity or zero. -/
def DecimalParts.toFloat (p : DecimalParts) : Float :=
  let ds := (p.whole ++ p.fraction).dropWhile (· == '0')
  let exponent := p.exponent - p.fraction.length
  let place := exponent + ds.length
  if ds.isEmpty || place < -340 then 0.0
  else if place > 320 then infinity
  else if 0 ≤ exponent then nearest (digitsToNat ds * Nat.pow 10 exponent.toNat) 1
  else nearest (digitsToNat ds) (Nat.pow 10 (-exponent).toNat)

def readSize? (cs : List Char) : Option Float :=
  let name := String.ofList (cs.map Char.toLower)
  if name == "inf" || name == "infinity" then some infinity
  else if name == "nan" then some notANumber
  else (dropUnderscores cs).bind readParts? |>.map DecimalParts.toFloat

/-- The double that a text writes, if it writes one. -/
def readFloat? (s : String) : Option Float :=
  let (negative, cs) := takeSign ((unpad s.toList).map plainDigit)
  (readSize? cs).map fun x => if negative then -x else x

/-- The longest run of digits that is taken for an integer. -/
def maxIntegerDigits : Nat := 4300

@[irreducible] def leastTooLong : Nat := Nat.pow 10 maxIntegerDigits

inductive IntegerText
  | value (n : Int)
  | tooLong (digits : Nat)
  | malformed

def readInt (s : String) : IntegerText :=
  let (negative, cs) := takeSign ((unpad s.toList).map plainDigit)
  match dropUnderscores cs with
  | none => .malformed
  | some ds =>
    if ds.isEmpty || !ds.all (·.isDigit) then .malformed
    else if ds.length > maxIntegerDigits then .tooLong ds.length
    else .value (if negative then -(digitsToNat ds : Int) else digitsToNat ds)

end SalesDesk.Number
