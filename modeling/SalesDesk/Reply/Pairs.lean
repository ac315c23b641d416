import SalesDesk.Number.Reading
import SalesDesk.Text.Blank
import SalesDesk.Text.Replace

/-! Amounts in pairs: a second amount in brackets is named or dropped. -/
namespace SalesDesk.Reply

def afterText? : List Char → List Char → Option (List Char)
  | [], cs => some cs
  | _ :: _, [] => none
  | w :: word, c :: cs => if w == c then afterText? word cs else none

/-- An amount at the start of a text: digits and commas, the first being a digit, and a fraction. -/
def takeAmount? (cs : List Char) : Option (List Char × List Char) :=
  if !cs.head?.any Text.isDigit then none
  else
    let inWhole (c : Char) := Text.isDigit c || c == ','
    let whole := cs.takeWhile inWhole
    let rest := cs.dropWhile inWhole
    match rest with
    | '.' :: more =>
      let fraction := more.takeWhile Text.isDigit
      if fraction.isEmpty then some (whole, rest)
      else some (whole ++ '.' :: fraction, more.dropWhile Text.isDigit)
    | _ => some (whole, rest)

def amountSize (amount : List Char) : Float :=
  (Number.readFloat? (String.ofList (amount.filter (· != ',')))).getD 0.0

def takePair? (symbol cs : List Char) : Option (List Char × List Char × List Char) := do
  let (first, rest) ← takeAmount? (← afterText? symbol cs)
  let rest ← afterText? ['('] (rest.dropWhile Text.isBlank)
  let (second, rest) ← takeAmount? (← afterText? symbol rest)
  return (first, second, ← afterText? [')'] rest)

/-- A second amount of more than one and a half times the first one is a profit; every other one is
dropped. -/
def pairStep (symbol : List Char) : Text.Step := fun _ cs => do
  let (first, second, rest) ← takePair? symbol cs
  let profit :=
    if amountSize second > amountSize first * 1.5 then
      " (Profit: ".toList ++ symbol ++ second ++ [')']
    else []
  return (cs.length - rest.length, symbol ++ first ++ profit)

def clarifyPairs (text symbol : String) : String :=
  String.ofList (Text.replace (pairStep symbol.toList) text.toList)

end SalesDesk.Reply
