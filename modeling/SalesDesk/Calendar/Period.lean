import SalesDesk.Calendar.Date
import SalesDesk.Text.Casing
import SalesDesk.Value.Written

/-! Months and years that a question names. -/
namespace SalesDesk

def monthNames : List String :=
  ["january", "february", "march", "april", "may", "june", "july", "august", "september",
    "october", "november", "december"]

def monthTitle (month : Nat) : String := Text.capitalised (monthNames.getD (month - 1) "")

/-- A month, a year, or a month of one year. A year left open stands for every year. -/
structure Period where
  month : Option String := none
  year : Option Int := none
deriving DecidableEq

namespace Period

def month? (p : Period) : Option String := p.month.filter (!·.isEmpty)

def year? (p : Period) : Option Int := p.year.filter (· != 0)

def monthNumber (p : Period) : Except Fault (Option Nat) :=
  match p.month? with
  | none => .ok none
  | some name =>
    match monthNames.idxOf? name with
    | some i => .ok (some (i + 1))
    | none => .error (.unknownMonth name)

/-- `April 2024`, the month or the year alone, or `all time`. -/
def label (p : Period) : String :=
  let parts := (p.month?.map Text.capitalised).toList ++ (p.year?.map toString).toList
  if parts.isEmpty then "all time" else String.intercalate " " parts

def written (p : Period) : Except Fault String := Number.written (p.year?.getD 0) p.label

def includes (month : Option Nat) (year : Option Int) (d : Date) : Bool :=
  month.all (d.month == ·) && year.all ((d.year : Int) == ·)

end Period

end SalesDesk
