import SalesDesk.Ledger.Record
import SalesDesk.Text.Search

/-!
What a question asks for, read off its keywords. Each table is tried in order and its first line
with a mentioned keyword decides.
-/
namespace SalesDesk

inductive Intent
  | comparison | information | ranking | calculation | temporalAnalysis | clarification | general
deriving DecidableEq

namespace Intent

def all : List Intent :=
  [comparison, information, ranking, calculation, temporalAnalysis, clarification, general]

def name : Intent → String
  | comparison => "comparison"
  | information => "information"
  | ranking => "ranking"
  | calculation => "calculation"
  | temporalAnalysis => "temporal_analysis"
  | clarification => "clarification"
  | general => "general"

end Intent

inductive Operation
  | aggregate | average | count | top | bottom | breakdown | compare | list
deriving DecidableEq

namespace Operation

def all : List Operation := [aggregate, average, count, top, bottom, breakdown, compare, list]

def name : Operation → String
  | aggregate => "aggregate"
  | average => "average"
  | count => "count"
  | top => "top"
  | bottom => "bottom"
  | breakdown => "breakdown"
  | compare => "compare"
  | list => "list"

end Operation

/-- What records are put together by: their month or a field. Nothing can be put together by
another name. -/
inductive Grouping
  | month
  | field (f : Field)
  | other (name : String)
deriving DecidableEq

namespace Grouping

@[match_pattern] abbrev column (c : Column) : Grouping := field (.named c)

@[match_pattern] abbrev day : Grouping := field .date

def known : List Grouping := month :: Field.all.map field

def name : Grouping → String
  | month => "month"
  | field f => f.name
  | other name => name

def ofName (name : String) : Grouping := (known.find? (·.name == name)).getD (other name)

end Grouping

namespace Query

def firstRule {β : Type} (rules : List (List String × β)) (text : String) : Option β :=
  (rules.find? fun rule => Text.mentionsAny text rule.1).map (·.2)

def comparisonWords : List String := ["vs", "versus", "compare", "comparison"]

def intentRules : List (List String × Intent) := [
  (comparisonWords, .comparison),
  (["what is", "show me", "tell me"], .information),
  (["top", "best", "highest", "nett"], .ranking),
  (["how much", "total"], .calculation),
  (["month", "period", "wise", "breakdown"], .temporalAnalysis),
  (["not", "instead", "but"], .clarification)]

def operationRules : List (List String × Operation) := [
  (["total", "sum", "overall", "all"], .aggregate),
  (["average", "avg", "mean"], .average),
  (["count", "number", "how many"], .count),
  (["top", "highest", "best", "maximum", "max"], .top),
  (["bottom", "lowest", "worst", "minimum", "min"], .bottom),
  (["breakdown", "wise", "by", "split", "group"], .breakdown),
  (comparisonWords, .compare)]

def groupingRules : List (List String × Grouping) := [
  (["month", "monthly"], .month),
  (["customer", "client", "party"], .column .customer),
  (["item", "product", "goods"], .column .item),
  (["category", "stock group", "group"], .column .category),
  (["region", "location", "area"], .column .region),
  (["date", "day", "daily"], .day)]

def measureRules : List (List String × Field) := [
  (["revenue", "sales", "amount"], .amount),
  (["orders", "order"], .masterId),
  (["quantity", "units"], .quantity),
  (["customers", "customer"], .named .customer),
  (["masterid", "master id", "transaction id"], .masterId),
  (["cp_date", "cp date", "transaction date"], .date),
  (["item", "product"], .named .item),
  (["category", "stock group", "stockgroup"], .named .category),
  (["region", "location"], .named .region),
  (["issales", "is sales"], .isSale)]

def intent (lower : String) : Intent := (firstRule intentRules lower).getD .general

def operation (lower : String) : Operation := (firstRule operationRules lower).getD .list

def grouping? (lower : String) : Option Grouping := firstRule groupingRules lower

def measure? (lower : String) : Option Field := firstRule measureRules lower

end Query

end SalesDesk
