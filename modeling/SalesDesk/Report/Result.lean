import SalesDesk.Conversation.Context
import SalesDesk.Value.Basic

/-! Answers before they are put into words: tables, figures, sections and messages. -/
namespace SalesDesk

inductive Cell (α : Type) where
  | absent
  | figure (x : α)
  | count (n : Int)
  | text (s : String)
  | day (d : Date)
  /-- A value of another kind, given from outside. -/
  | given (v : Value)

inductive ResultKind
  | table | summary | composite | message | noData
deriving DecidableEq

namespace ResultKind

def all : List ResultKind := [table, summary, composite, message, noData]

def name : ResultKind → String
  | table => "table"
  | summary => "summary"
  | composite => "composite"
  | message => "message"
  | noData => "no_data"

end ResultKind

/-- How the rows of a table are set. Only lists differ from tables. -/
inductive Layout
  | table
  | list
  | other (name : String)
deriving DecidableEq

namespace Layout

def name : Layout → String
  | table => "table"
  | list => "list"
  | other name => name

def ofName (name : String) : Layout :=
  if name == "table" then table else if name == "list" then list else other name

end Layout

/-- An answer. `totals` are the figures below the rows; `dimension` and `count` say what the
conversation is to remember. -/
structure Result (α : Type) where
  kind : ResultKind
  operation : String := ""
  title : String := ""
  columns : List String := []
  rows : List (Entries (Cell α)) := []
  totals : Entries (Cell α) := []
  labels : Entries String := []
  filters : Entries String := []
  layout : Layout := .table
  ranked : Bool := false
  note : String := ""
  message : String := ""
  sections : List (Result α) := []
  dimension : Option Dimension := none
  count : Option Int := none

namespace Result

variable {α : Type}

def noData (message operation : String) : Result α := { kind := .noData, operation, message }

def words (message operation : String) : Result α := { kind := .message, operation, message }

/-- The values of a column, absent where a row lacks it. -/
def columnValues (r : Result α) (name : String) : List (Cell α) :=
  r.rows.map fun row => (row.lookup name).getD .absent

end Result

end SalesDesk
