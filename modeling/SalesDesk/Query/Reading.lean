import SalesDesk.Query.Names
import SalesDesk.Query.Numbers
import SalesDesk.Query.Rules

/-! A question as it is understood: its intent, what it names, and how it wants the answer. -/
namespace SalesDesk.Query

structure Mentions where
  names : Names := {}
  period : Option Period := none
  count : Option Int := none
  measure : Field := .amount
  periods : List Period := []

structure Modifiers where
  monthWise : Bool := false
  topN : Bool := false
  total : Bool := false
  average : Bool := false
  specific : Bool := false
  comparison : Bool := false
  breakdown : Bool := false

def Modifiers.toNames (m : Modifiers) : List String :=
  ([("month_wise", m.monthWise), ("top_n", m.topN), ("total", m.total), ("average", m.average),
    ("specific", m.specific), ("comparison", m.comparison), ("breakdown", m.breakdown)].filter
      (·.2)).map (·.1)

structure Reading where
  intent : Intent
  mentions : Mentions
  modifiers : Modifiers

def isGiven (name : Option String) : Bool := name.any (!·.isEmpty)

def read (query : String) (vocabulary : Vocabulary) : Except Fault Reading := do
  let lower := Text.lower query
  let count ← count? query
  let intent := intent lower
  let names := names lower vocabulary
  return {
    intent
    mentions := {
      names
      period := firstPeriod? lower
      count
      measure := (measure? lower).getD .amount
      periods := periods lower }
    modifiers := {
      monthWise := Text.mentionsAny lower ["month", "wise"]
      topN := Text.mentions lower "top" && count.isSome
      total := Text.mentionsAny lower ["total", "sum"]
      average := Text.mentionsAny lower ["average", "avg"]
      specific := isGiven names.customer || isGiven names.item
      comparison := intent == .comparison
      breakdown := intent == .temporalAnalysis } }

end SalesDesk.Query
