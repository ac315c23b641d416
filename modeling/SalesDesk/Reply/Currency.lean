import SalesDesk.Ledger.Record
import SalesDesk.Text.Blank
import SalesDesk.Text.Replace
import SalesDesk.Text.Search
import SalesDesk.Value.Json

/-! The currency of a ledger, and replies that name amounts in another one. -/
namespace SalesDesk

structure Currency where
  sign : Char
  nation : String
  unit : String
  code : String

namespace Currency

def rupee : Currency := ⟨'₹', "Indian", "Rupee", "INR"⟩

def dollar : Currency := ⟨'$', "US", "Dollar", "USD"⟩

def symbol (c : Currency) : String := c.sign.toString

def name (c : Currency) : String := c.nation ++ " " ++ c.unit ++ "s"

def units (c : Currency) : String := Text.lower c.unit ++ "s"

/-- The currency of a symbol, if it is one of the two that are known. -/
def ofSymbol? (symbol : String) : Option Currency :=
  [rupee, dollar].find? fun c => c.symbol == symbol

/-- The known currency that a symbol does not stand for. -/
def other (c : Currency) : Currency := if c.sign == rupee.sign then dollar else rupee

/-- How a currency is called in an instruction; unknown symbols stand for themselves. -/
def nameOf (symbol : String) : String := ((ofSymbol? symbol).map name).getD symbol

/-- The same letter in either case; the long s and the two forms of a dotless or dotted i count as
well. -/
def sameLetter (a b : Char) : Bool :=
  let a := a.toLower
  a == b.toLower || (a == 's' && b == 'ſ') || (a == 'i' && (b == 'İ' || b == 'ı'))

def after? : List Char → List Char → Option (List Char)
  | [], cs => some cs
  | _ :: _, [] => none
  | w :: word, c :: cs => if sameLetter w c then after? word cs else none

def afterUnit (unit : String) (cs : List Char) : List (List Char) :=
  match after? unit.toList cs with
  | none => []
  | some rest => (after? ['s'] rest).toList ++ [rest]

def takenUpTo (cs rest : List Char) : Nat := cs.length - rest.length

/-- A sign before a digit, blanks between them being dropped. -/
def signStep (from_ to_ : Currency) : Text.Step := fun _ cs =>
  match cs with
  | [] => none
  | c :: more =>
    let rest := more.dropWhile Text.isBlank
    if c == from_.sign && rest.head?.any Text.isDigit then
      some (takenUpTo cs rest, [to_.sign])
    else none

def nameStep (from_ to_ : Currency) : Text.Step := fun before cs =>
  if !Text.edge before cs.head? then none
  else do
    let rest ← after? from_.nation.toList cs
    let rest ← (afterUnit from_.unit (rest.dropWhile Text.isBlank)).find? fun rest =>
      !Text.wordAt rest.head?
    return (takenUpTo cs rest, to_.name.toList)

def amountStep (from_ to_ : Currency) : Text.Step := fun _ cs =>
  match cs with
  | [] => none
  | c :: more =>
    if !Text.isDigit c then none
    else do
      let rest ← (afterUnit from_.unit (more.dropWhile Text.isBlank)).head?
      return (takenUpTo cs rest, c :: ' ' :: to_.units.toList)

def leadingUnitStep (from_ to_ : Currency) : Text.Step := fun _ cs => do
  let rest ← ((afterUnit from_.unit cs).map (·.dropWhile Text.isBlank)).find? fun rest =>
    rest.head?.any Text.isDigit
  return (takenUpTo cs rest, [to_.sign])

def unitStep (from_ to_ : Currency) : Text.Step := fun before cs =>
  if !Text.edge before cs.head? then none
  else do
    let rest ← (afterUnit from_.unit cs).find? fun rest => !Text.wordAt rest.head?
    return (takenUpTo cs rest, to_.units.toList)

def codeStep (from_ to_ : Currency) : Text.Step := fun before cs =>
  if !Text.edge before cs.head? then none
  else do
    let rest ← after? from_.code.toList cs
    if Text.wordAt rest.head? then none else return (takenUpTo cs rest, to_.code.toList)

def steps (from_ to_ : Currency) : List Text.Step :=
  [signStep, nameStep, amountStep, leadingUnitStep, unitStep, codeStep].map fun step =>
    step from_ to_

end Currency

namespace Reply

def correctCurrency (text symbol : String) : String :=
  match Currency.ofSymbol? symbol with
  | none => text
  | some c =>
    String.ofList ((c.other.steps c).foldl (fun cs step => Text.replace step cs) text.toList)

def currencySample : Nat := 10

def ofCountry? (country : Value) : Option Currency :=
  let name := Text.lower country.shown
  if !country.holdsSomething then none
  else if Text.hasPhrase name "india" then some .rupee
  else if Text.hasPhrase name "usa" || Text.hasPhrase name "united states" then some .dollar
  else none

/-- The currency that most countries have, the first one of them if there is a tie. -/
def byVotes? (votes : List Currency) : Option Currency :=
  votes.head?.map fun first =>
    let own := votes.countP (·.sign == first.sign)
    if votes.length - own > own then first.other else first

def byMarkers? (text : String) : Option Currency :=
  [Currency.rupee, Currency.dollar].find? fun c =>
    [Text.lower c.unit, Text.lower c.code, c.symbol].any (Text.hasFragment text)

def countryOf (record : Entries Value) : Value := (Value.field? "country" record).getD .null

def votes (sample : List (Entries Value)) : List Currency :=
  sample.filterMap fun r => ofCountry? (countryOf r)

def listed (sample : List (Entries Value)) : Value := .list (sample.map .object)

def sampleCurrency? (sample : List (Entries Value)) : Option Currency :=
  (byVotes? (votes sample)).or (byMarkers? (Text.lower (Json.line (listed sample))))

def currencyOf (records : List (Entries Value)) (other : String) : String :=
  ((sampleCurrency? (records.take currencySample)).map Currency.symbol).getD other

/-- The symbol of the currency of records. The countries are read as texts; the records are only
written out where no country votes. -/
def currency (records : List (Entries Value)) (other : String) : Except Fault String := do
  let sample := records.take currencySample
  let votes ← (Value.list (sample.map countryOf)).written (votes sample)
  if votes.isEmpty then (listed sample).written (currencyOf records other)
  else return currencyOf records other

def ledgerCurrency (records : List (Record Float)) (other : String) : Except Fault String :=
  currency ((records.take currencySample).map Record.toFields) other

end Reply

end SalesDesk
