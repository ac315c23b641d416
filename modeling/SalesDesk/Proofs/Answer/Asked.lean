import SalesDesk.Answer.Stages
import SalesDesk.Proofs.Answer.Scope
import SalesDesk.Proofs.Query.Named

/-! Questions that can be read, about ledgers that have records. -/
namespace SalesDesk

variable {α : Type} {query : String} {d : Dataset α} {context : Context}

/-- A question about a ledger, with a given count. -/
def Request.counting (query : String) (dataset : Dataset α) (context : Context)
    (count : Option Int) : Request α where
  query
  lower := Text.lower query
  dataset
  context
  reading := Query.readAs query dataset.vocabulary count
  stated := count

theorem Request.make_eq {count : Option Int} (h : Query.count? query = .ok count)
    (d : Dataset α) (context : Context) :
    make query d context = .ok (counting query d context count) := by
  rw [make, Query.read_eq h]
  rfl

namespace Request

variable (query : String) (d : Dataset α) (context : Context) (count : Option Int)

theorem names_counting : (counting query d context count).mentions.names =
    Query.names (Text.lower query) d.vocabulary := by
  dsimp only [mentions, counting, Query.readAs]

theorem intent_counting :
    (counting query d context count).reading.intent = Query.intent (Text.lower query) := by
  dsimp only [counting, Query.readAs]

theorem monthWise_counting : (counting query d context count).reading.modifiers.monthWise =
    Text.mentionsAny (Text.lower query) ["month", "wise"] := by
  dsimp only [counting, Query.readAs]

theorem period_counting : (counting query d context count).mentions.period =
    Query.firstPeriod? (Text.lower query) := by
  dsimp only [mentions, counting, Query.readAs]

theorem measure_counting : (counting query d context count).mentions.measure =
    (Query.measure? (Text.lower query)).getD .amount := by
  dsimp only [mentions, counting, Query.readAs]

theorem readsPeriods_counting : (counting query d context count).ReadsPeriods := by
  constructor <;> dsimp only [mentions, counting, Query.readAs]

end Request

variable [Figure α]

theorem Dataset.records_of_ofRecords {records : List (Record α)} {metrics : Option (Metrics α)}
    (h : ofRecords records metrics = .ok d) :
    d.records = records ∧ d.table = tableOf records ∧
      d.vocabulary = Vocabulary.ofRecords records := by
  cases metrics with
  | some _ =>
    cases h
    exact ⟨rfl, rfl, rfl⟩
  | none =>
    obtain ⟨_, -, h⟩ := bind_eq_ok.mp h
    cases h
    exact ⟨rfl, rfl, rfl⟩

/-- A question that is neither blank nor about nothing goes through the stages. -/
theorem resolve_eq {count : Option Int} (hempty : d.isEmpty = false)
    (hblank : Text.isBlankText query = false) (hcount : Query.count? query = .ok count) :
    resolve query d context =
      Stage.resolveAmong (.counting query d context count) Stage.inOrder := by
  rw [resolve, hempty, hblank, Request.make_eq hcount]
  rfl

end SalesDesk
