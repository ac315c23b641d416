import SalesDesk.Ledger.Record

/-! The names that questions about a ledger can use, and the kinds of its fields. -/
namespace SalesDesk

structure Vocabulary where
  customers : List String := []
  items : List String := []
  categories : List String := []
  regions : List String := []
  numeric : List Field := []
  text : List Field := []
  dates : List Field := []

namespace Vocabulary

def values (v : Vocabulary) : Column → List String
  | .customer => v.customers
  | .item => v.items
  | .category => v.categories
  | .region => v.regions

def isEmpty (v : Vocabulary) : Bool := Column.all.all fun c => (v.values c).isEmpty

variable {α : Type}

/-- The names in a column, each once, in the order they first appear. -/
def namesIn (records : List (Record α)) (column : Column) : List String :=
  ((records.map (·.named column)).filter (!·.isEmpty)).eraseDups

def textFields (r : Record α) : List Field :=
  Column.all.map .named ++ (if r.masterId matches .text _ then [.masterId] else []) ++
    (if r.country.isSome then [.country] else [])

def dateFields (r : Record α) : List Field :=
  (if r.masterId matches .date _ | .moment _ then [.masterId] else []) ++ [.date]

/-- The vocabulary of records. The first record shows the kinds of the fields. -/
def ofRecords (records : List (Record α)) : Vocabulary :=
  match records with
  | [] => {}
  | first :: _ => {
      customers := namesIn records .customer
      items := namesIn records .item
      categories := namesIn records .category
      regions := namesIn records .region
      numeric := [.amount, .quantity]
      text := textFields first
      dates := dateFields first }

end Vocabulary

end SalesDesk
