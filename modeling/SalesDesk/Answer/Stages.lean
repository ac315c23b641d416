import SalesDesk.Answer.General
import SalesDesk.Answer.Structured
import SalesDesk.Report.Render

/-! The stages of answering: the first one that has an answer gives it. -/
namespace SalesDesk

/-- The stages that answer a question about data, in the order in which they are tried, and the
two that need no reading of it. -/
inductive Stage
  | noData | empty
  | structured | followUp | complexTop | masterIds | sales | days | months | revenue | orders
  | customers | products | quantities | stockGroups | regions | periods | compareHint | trends
  | summary | entities | universal | debug | help | fallback
deriving DecidableEq

namespace Stage

def name : Stage → String
  | noData => "no_data"
  | empty => "empty"
  | structured => "structured"
  | followUp => "follow_up"
  | complexTop => "complex_top_n"
  | masterIds => "masterid"
  | sales => "issales"
  | days => "date_range"
  | months => "month_wise"
  | revenue => "revenue"
  | orders => "orders"
  | customers => "customer"
  | products => "product"
  | quantities => "quantity"
  | stockGroups => "stock_group"
  | regions => "region"
  | periods => "date_specific"
  | compareHint => "compare_hint"
  | trends => "trend"
  | summary => "summary"
  | entities => "entity_analysis"
  | universal => "universal"
  | debug => "debug"
  | help => "help"
  | fallback => "fallback"

def inOrder : List Stage := [
  structured, followUp, complexTop, masterIds, sales, days, months, revenue, orders, customers,
  products, quantities, stockGroups, regions, periods, compareHint, trends, summary, entities,
  universal, debug, help]

variable {α : Type} [Figure α]

def strategy : Stage → Strategy α
  | noData | empty => fun _ => .ok none
  | structured => Answer.structured
  | followUp => Answer.followUp
  | complexTop => Answer.complexTop
  | masterIds => Answer.masterIds
  | sales => Answer.sales
  | days => Answer.days
  | months => Answer.months
  | revenue => Answer.revenue
  | orders => Answer.orders
  | customers => Answer.customers
  | products => Answer.products
  | quantities => Answer.quantities
  | stockGroups => Answer.stockGroups
  | regions => Answer.regions
  | periods => Answer.periods
  | compareHint => Answer.compareHint
  | trends => Answer.trends
  | summary => Answer.summary
  | entities => Answer.entities
  | universal => Answer.universal
  | debug => Answer.debug
  | help => Answer.help
  | fallback => fun _ => .ok (some Answer.fallback)

/-- The first stage with an answer, and the fallback if there is none. -/
def resolveAmong (r : Request α) : List Stage → Except Fault (Stage × Result α)
  | [] => .ok (fallback, Answer.fallback)
  | stage :: rest => do
    match ← stage.strategy r with
    | some result => return (stage, result)
    | none => resolveAmong r rest

end Stage

section
variable {α : Type} [Figure α]

def noDataMessage : String := "No data available to analyze."

def emptyQueryMessage : String := "Please type a question about your sales data."

def resolve (query : String) (dataset : Dataset α) (context : Context) :
    Except Fault (Stage × Result α) := do
  if dataset.isEmpty then return (.noData, .noData noDataMessage "")
  else if Text.isBlankText query then return (.empty, .words emptyQueryMessage "message")
  else Stage.resolveAmong (← Request.make query dataset context) Stage.inOrder

/-- The context after an answer: a new one if the answer has a dimension, otherwise the old one. -/
def Result.nextContext (r : Result α) (context : Context) : Context :=
  match r.dimension with
  | none => context
  | some d => .ofDimension d r.count

end

def answer (query : String) (dataset : Dataset Float) (context : Context) (style : Style) :
    Except Fault (String × Context) := do
  let (_, result) ← resolve query dataset context
  return (← result.render style, result.nextContext context)

end SalesDesk
