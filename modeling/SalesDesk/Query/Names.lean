import SalesDesk.Calendar.Period
import SalesDesk.Ledger.Vocabulary
import SalesDesk.Text.Blank
import SalesDesk.Text.Search

/-!
Names of the ledger in a question. A name that occurs as a whole wins; only where none does, words
of the question are looked for inside names.
-/
namespace SalesDesk.Query

def fillerWords : List String := [
  "a", "about", "all", "amount", "an", "analysis", "and", "any", "are", "area", "avg", "best",
  "between", "bottom", "breakdown", "but", "by", "category", "categories", "client", "clients",
  "compare", "comparison", "count", "customer", "customers", "daily", "data", "date", "dates",
  "day", "detail", "details", "display", "does", "each", "find", "for", "from", "get", "give",
  "goods", "group", "groups", "had", "has", "have", "highest", "how", "i", "in", "instead", "is",
  "item", "items", "last", "list", "location", "lowest", "many", "me", "mean", "month", "monthly",
  "months", "much", "my", "need", "nett", "net", "not", "number", "of", "on", "or", "order",
  "orders", "our", "overall", "party", "per", "period", "please", "product", "products", "qty",
  "quantity", "region", "regions", "report", "revenue", "sale", "sales", "see", "selling", "show",
  "sold", "split", "stock", "sum", "summary", "tell", "than", "that", "the", "their", "this", "to",
  "top", "total", "transaction", "transactions", "trend", "units", "value", "values", "versus",
  "vs", "want", "was", "were", "what", "which", "who", "wise", "with", "worst", "year", "years"]

def isNameChar (c : Char) : Bool :=
  ('a' ≤ c && c ≤ 'z') || c.isDigit || ['&', '.', '\x27'].contains c

/-- The words of a question in small letters that may be part of a name. -/
def nameWords (lower : String) : List String :=
  ((Text.runs isNameChar lower.toList).filter fun w => !w.all (·.isDigit)).map String.ofList
    |>.filter fun w => !fillerWords.contains w && !monthNames.contains w

/-- The question without fillers, months and numbers. -/
def cleaned (lower : String) : String := String.intercalate " " (nameWords lower)

/-- The longest of some names; of several the first. -/
def longest? : List String → Option String
  | [] => none
  | name :: rest =>
    match longest? rest with
    | none => some name
    | some other => if name.length < other.length then some other else some name

def isNamed (lower name : String) : Bool :=
  !fillerWords.contains (Text.lower name) && Text.hasPhrase lower (Text.lower name)

def exactMatch? (lower : String) (names : List String) : Option String :=
  longest? (names.filter (isNamed lower))

/-- Shorter words and texts are not searched for. -/
def shortestPart : Nat := 3

def longWords (s : String) : List String :=
  (Text.words (Text.lower s)).filter (shortestPart ≤ ·.length)

/-- Words overlap if they are equal, or one of at least four letters starts the other. -/
def overlap (a b : String) : Bool :=
  a == b || (4 ≤ min a.length b.length &&
    (b.toList.isPrefixOf a.toList || a.toList.isPrefixOf b.toList))

/-- The first name that holds the cleaned question, or else the first that shares a word with it. -/
def fuzzyMatch? (cleaned : String) (names : List String) : Option String :=
  if cleaned.length < shortestPart then none
  else
    (names.find? fun name => Text.hasFragment (Text.lower name) cleaned).or
      (names.find? fun name =>
        (longWords cleaned).any fun q => (longWords name).any (overlap q))

structure Names where
  customer : Option String := none
  item : Option String := none
  category : Option String := none
  region : Option String := none

namespace Names

def get (n : Names) : Column → Option String
  | .customer => n.customer
  | .item => n.item
  | .category => n.category
  | .region => n.region

def ofColumns (f : Column → Option String) : Names :=
  ⟨f .customer, f .item, f .category, f .region⟩

def toList (n : Names) : List (Column × String) :=
  Column.all.filterMap fun c => ((n.get c).filter (!·.isEmpty)).map fun name => (c, name)

end Names

/-- The names of a question in small letters. One whole name anywhere rules out guesses. -/
def names (lower : String) (v : Vocabulary) : Names :=
  let exact := Names.ofColumns fun c => exactMatch? lower (v.values c)
  if !exact.toList.isEmpty then exact
  else
    let rest := cleaned lower
    Names.ofColumns fun c => fuzzyMatch? rest (v.values c)

/-- The name of one column alone, guessed if it does not occur as a whole. -/
def nameAmong? (query : String) (names : List String) : Option String :=
  let lower := Text.lower query
  (exactMatch? lower names).or (fuzzyMatch? (cleaned lower) names)

end SalesDesk.Query
