import SalesDesk.Ledger.Condition
import SalesDesk.Report.Result

/-!
Filters on records. Filters on fields work before those on periods; each keeps the records that
pass its test, or drops them.
-/
namespace SalesDesk

namespace Filter

inductive Mode where
  | keep
  | drop
  /-- Any other word drops them as well. -/
  | other (word : Value)

end Filter

structure Filter (α : Type) where
  field : String
  condition : Filter.Condition α
  label : String
  mode : Filter.Mode := .keep
  enabled : Bool := true

namespace Filter

variable {α : Type} [Figure α]

def periodField : String := "period"

def ofPeriod (p : Period) : Filter α := ⟨periodField, .all (.period (some p)), p.label, .keep, true⟩

def ofName (column : Column) (name : String) : Filter α :=
  ⟨column.name, .all (.named column (some name)), name, .keep, true⟩

def ofSale (mode : Mode) : Filter α :=
  ⟨Field.isSale.name, .all (.isSale (.bool true)), (Value.bool true).shown, mode, true⟩

def ofMentions (names : List (Column × String)) (period : Option Period) : List (Filter α) :=
  names.map (fun n => ofName n.1 n.2) ++ period.toList.map ofPeriod

def Mode.keeps : Mode → Bool
  | .keep => true
  | _ => false

/-- Apply a filter to rows that belong to records. Without rows no month is looked up. -/
def applyTo {β : Type} (record : β → Record α) (f : Filter α) (rows : List β) :
    Except Fault (List β) :=
  if rows.isEmpty && f.condition matches .all (.period _) then .ok rows
  else f.condition.select record f.mode.keeps rows

def isPeriod (f : Filter α) : Bool := f.field == periodField

def inOrder (filters : List (Filter α)) : List (Filter α) :=
  (filters.filter (!·.isPeriod) ++ filters.filter (·.isPeriod)).filter (·.enabled)

def applyAllTo {β : Type} (record : β → Record α) (filters : List (Filter α)) (rows : List β) :
    Except Fault (List β) :=
  (inOrder filters).foldlM (fun rows f => f.applyTo record rows) rows

def applyAll (filters : List (Filter α)) (rows : List (Record α)) :
    Except Fault (List (Record α)) :=
  applyAllTo id filters rows

def Mode.shown (label : String) : Mode → String
  | .drop => "not " ++ label
  | _ => label

/-- What a filter is labelled with. -/
def shown (f : Filter α) : String := f.mode.shown f.label

def labels (filters : List (Filter α)) : Entries String :=
  filters.foldl (fun found f => found.put f.field f.shown) []

def inPeriod (period : Option Period) (rows : List (Record α)) : Except Fault (List (Record α)) :=
  match period with
  | none => .ok rows
  | some p => (ofPeriod p : Filter α).applyTo id rows

inductive Subject
  | value (field : String) (v : Value)
  | period (p : Option Period)

namespace Subject

def field : Subject → String
  | value field _ => field
  | period _ => periodField

def condition (today : Date) : Subject → Condition Float
  | value field v => conditionOf field v today
  | period p => .all (.period p)

def text : Subject → String
  | value _ v => v.shown
  | period p => (p.map Period.label).getD Value.null.shown

def source : Subject → Value
  | value _ v => v
  | period p => .int ((p.bind Period.year?).getD 0)

def label (s : Subject) : Except Fault String := s.source.written s.text

end Subject

structure Added where
  subject : Subject
  mode : Mode := .keep
  enabled : Bool := true

def Added.filter (today : Date) (a : Added) : Filter Float :=
  ⟨a.subject.field, a.subject.condition today, a.subject.text, a.mode, a.enabled⟩

/-- The label of each field in a stack, if all of them can be written. -/
def describe (stack : List Added) : Except Fault (Entries String) :=
  stack.foldlM (fun found a => do
    return found.put a.subject.field (a.mode.shown (← a.subject.label))) []

end Filter

end SalesDesk
