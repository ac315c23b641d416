import SalesDesk.Analysis.Comparisons
import SalesDesk.Query.Reading

/-! A question about a ledger inside a conversation, and the records it narrows the ledger to. -/
namespace SalesDesk

/-- All that an answer may look at. `stated` is the count as the question states it. -/
structure Request (α : Type) where
  query : String
  lower : String
  dataset : Dataset α
  context : Context
  reading : Query.Reading
  stated : Option Int

namespace Request

variable {α : Type} [Figure α]

def make (query : String) (dataset : Dataset α) (context : Context) :
    Except Fault (Request α) := do
  let reading ← Query.read query dataset.vocabulary
  let lower := Text.lower query
  return { query, lower, dataset, context, reading, stated := reading.mentions.count }

def asks (r : Request α) (keywords : List String) : Bool := Text.mentionsAny r.lower keywords

def rows (r : Request α) : List (Record α) := r.dataset.table

def mentions (r : Request α) : Query.Mentions := r.reading.mentions

/-- The count that the question names, zero standing for none. -/
def countOr (r : Request α) (other : Int) : Int := (r.mentions.count.filter (· != 0)).getD other

def namesIn (r : Request α) (columns : List Column) : List (Column × String) :=
  r.mentions.names.toList.filter fun n => columns.contains n.1

structure Scope (α : Type) where
  rows : List (Record α)
  labels : Entries String

/-- The records with some names and of a period. The labels tell both. -/
def filtered (r : Request α) (names : List (Column × String)) (period : Option Period) :
    Except Fault (Scope α) := do
  let filters := Filter.ofMentions names period
  let rows ← Filter.applyAll filters r.rows
  let _ ← period.mapM Period.written
  return ⟨rows, Filter.labels filters⟩

def ofGroups (r : Request α) : Except Fault (Scope α) :=
  r.filtered (r.namesIn [.category, .region]) none

def inScope (r : Request α) : Except Fault (Scope α) :=
  r.filtered (r.namesIn [.category, .region]) r.mentions.period

def dated (r : Request α) : Except Fault (Scope α) :=
  r.filtered [] r.mentions.period

def named (r : Request α) : Except Fault (Scope α) :=
  r.filtered r.mentions.names.toList r.mentions.period

def Scope.title (s : Scope α) : String := String.intercalate ", " (s.labels.map (·.2))

def days (r : Request α) : Except Fault (Date × Date) :=
  match dateRange r.dataset.records with
  | some span => .ok span
  | none => .error .noDates

end Request

/-- An answer to a request, or none if another one should be tried. -/
abbrev Strategy (α : Type) := Request α → Except Fault (Option (Result α))

end SalesDesk
