import SalesDesk.Limit
import SalesDesk.Reply.Currency
import SalesDesk.Reply.Pairs

/-! Replies cut short: before other subjects, and after so many words. -/
namespace SalesDesk.Reply

def offTopicMarkers : List String := [
  "sqlalchemy", "python", "academic", "research paper", "study", "abstract", "methodology",
  "literature review", "peer-reviewed", "scholarly", "university", "phd", "dissertation", "thesis"]

def minKept : Nat := 50

def firstMarker? (text : String) : Option (Nat × String) :=
  let lower := (Text.lower text).toList
  let hits := offTopicMarkers.filterMap fun m =>
    (Text.indexOf? lower m.toList).map fun i => (i, m)
  hits.foldl (fun best hit =>
    match best with
    | none => some hit
    | some b => if hit.1 < b.1 then some hit else best) none

def endsSentence (c : Char) : Bool := ['.', '\n', '!', '?'].contains c

def lastBoundary? (cs : List Char) : Option Nat :=
  (cs.reverse.findIdx? endsSentence).map fun i => cs.length - 1 - i

/-- Cut the text after the last whole sentence before the first marker. -/
def cutOffTopic (text : String) : String :=
  match firstMarker? text with
  | none => text
  | some (index, _) =>
    let head := text.toList.take index
    match lastBoundary? head with
    | none => text
    | some boundary =>
      if boundary > minKept then String.ofList (Text.stripChars (head.take (boundary + 1)))
      else text

/-- At most so many words; dots stand for the ones left out. -/
def capWords (text : String) (limit : Int) : String :=
  let words := Text.words text
  if (words.length : Int) ≤ limit then text
  else String.intercalate " " (upTo limit words) ++ "..."

/-- A reply in the right currency, without unclear pairs and other subjects, and not too long. -/
def tidy (text symbol : String) (limit : Int) : String :=
  capWords (cutOffTopic (clarifyPairs (correctCurrency text symbol) symbol)) limit

end SalesDesk.Reply
