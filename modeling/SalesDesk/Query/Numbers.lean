import SalesDesk.Calendar.Period
import SalesDesk.Number.Reading
import SalesDesk.Text.Blank

/-! Counts, years and months in a question. -/
namespace SalesDesk.Query

/-- Four digits of which the first two are an ASCII 20. -/
def isYear : List Char → Bool
  | ['2', '0', c, d] => Text.isDigit c && Text.isDigit d
  | _ => false

/-- The first run of digits that is no year, as a number. -/
def count? (query : String) : Except Fault (Option Int) :=
  match (Text.runs Text.isDigit query.toList).find? (!isYear ·) with
  | none => .ok none
  | some token =>
    match Number.readInt (String.ofList token) with
    | .value n => .ok (some n)
    | .tooLong digits => .error (.tooManyDigits (some digits))
    | .malformed => .error (.notAnInteger (String.ofList token))

/-- The words of a text, with the characters between them left out. -/
def wordRuns (text : String) : List (List Char) := Text.runs Text.isWord text.toList

def years (text : String) : List Int :=
  ((wordRuns text).filter isYear).map fun y => Number.digitsToNat (y.map Number.plainDigit)

def months (lower : String) : List String :=
  (((wordRuns lower).map String.ofList).filter monthNames.contains).eraseDups

/-- The year for the month at a place. Several years go with the months in order; where they run
out, and for a single year, the first one counts. -/
def yearAt (years : List Int) (i : Nat) : Option Int :=
  if years.length > 1 && i < years.length then years[i]? else years.head?

def periods (lower : String) : List Period :=
  (months lower).zipIdx.map fun (month, i) => ⟨some month, yearAt (years lower) i⟩

/-- The first month and the first year, if there is any of them. -/
def firstPeriod? (lower : String) : Option Period :=
  match (months lower).head?, (years lower).head? with
  | none, none => none
  | month, year => some ⟨month, year⟩

end SalesDesk.Query
