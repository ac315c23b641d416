import SalesDesk.Answer.Stages
import SalesDesk.Proofs.Outcome
import SalesDesk.Proofs.Text.SmallLetters

/-! Questions that are the same in small letters are the same questions. -/
namespace SalesDesk

theorem Text.isBlankText_lower (text : String) :
    isBlankText (lower text) = isBlankText text := caseless_isBlank.all_lower text

namespace Query

/-- The count of a question is read from the question as it stands, but could as well be read from
its small letters. -/
theorem count?_lower (query : String) : count? (Text.lower query) = count? query := by
  rw [count?, count?, Text.caseless_isDigit.runs_lower]

variable {query other : String}

theorem read_eq_of_lower (h : Text.lower query = Text.lower other) (vocabulary : Vocabulary) :
    read query vocabulary = read other vocabulary := by
  have hcount : count? query = count? other := by rw [← count?_lower, h, count?_lower]
  rw [read, read, h, hcount]

end Query

variable {α : Type} {query other : String}

namespace Request

def reworded (r : Request α) (query : String) : Request α := { r with query }

theorem make_eq_of_lower (h : Text.lower query = Text.lower other) (d : Dataset α)
    (context : Context) : make other d context = (make query d context).map (·.reworded other) := by
  rw [make, make, ← Query.read_eq_of_lower h, ← h]
  cases Query.read query d.vocabulary <;> rfl

theorem query_of_make {d : Dataset α} {context : Context} {r : Request α}
    (h : make query d context = .ok r) : r.query = query := by
  obtain ⟨reading, -, h⟩ := bind_eq_ok.mp h
  cases h
  rfl

end Request

variable {r : Request α}

theorem Answer.nameFor?_reworded (h : Text.lower r.query = Text.lower other) (column : Column) :
    nameFor? (r.reworded other) column = nameFor? r column := by
  have hquery : (r.reworded other).query = other := rfl
  rw [nameFor?, nameFor?, Query.nameAmong?, Query.nameAmong?, hquery, ← h]
  rfl

variable [Figure α]

namespace Stage

/-- Only the answers about a named entity look at the question itself, and they look for names in
its small letters. -/
theorem strategy_reworded (h : Text.lower r.query = Text.lower other) (stage : Stage) :
    stage.strategy (r.reworded other) = stage.strategy r := by
  cases stage with
  | entities =>
    have hname := Answer.nameFor?_reworded h
    simp only [strategy, Answer.entities, Answer.customerMonths?, Answer.firstNamed?, hname]
    rfl
  | _ => rfl

theorem resolveAmong_reworded (h : Text.lower r.query = Text.lower other) (stages : List Stage) :
    resolveAmong (r.reworded other) stages = resolveAmong r stages := by
  induction stages with
  | nil => rfl
  | cons stage rest ih => rw [resolveAmong, resolveAmong, strategy_reworded h, ih]

end Stage

theorem resolve_eq_of_lower (h : Text.lower query = Text.lower other) (d : Dataset α)
    (context : Context) : resolve other d context = resolve query d context := by
  have hblank : Text.isBlankText other = Text.isBlankText query := by
    rw [← Text.isBlankText_lower, ← h, Text.isBlankText_lower]
  rw [resolve, resolve, hblank, Request.make_eq_of_lower h]
  cases hr : Request.make query d context with
  | error f => rfl
  | ok r =>
    have hquery : Text.lower r.query = Text.lower other := by
      rw [Request.query_of_make hr, h]
    have hstages := Stage.resolveAmong_reworded hquery Stage.inOrder
    simp only [Except.map, ok_bind, hstages]

/-- Questions that are equal in small letters have the same answer, from the same stage and with
the same context after it, or fail alike. -/
theorem answers_ignore_case {query other : String} (h : Text.lower query = Text.lower other)
    (d : Dataset Float) (context : Context) :
    resolve query d context = resolve other d context ∧
      ∀ style, answer query d context style = answer other d context style := by
  have hresolve := resolve_eq_of_lower h d context
  refine ⟨hresolve.symm, fun style => ?_⟩
  rw [answer, answer, hresolve]

/-- A sale to a customer whose name ends in the letter that has two small forms. -/
def odosSale : Record Float where
  customer := "ΟΔΟΣ"
  item := "Steel"
  category := "Metal"
  region := "North"
  amount := 120.0
  quantity := 2.0
  masterId := .text "m1"
  date := ⟨2024, 4, 2⟩

theorem answers_ignore_case_odos :
    Text.lower "TOP ３ ITEMS OF ΟΔΟΣ" = Text.lower "top ３ Items of Οδος" ∧
      ∃ d, Dataset.ofRecords [odosSale] (some .empty) = .ok d ∧
        resolve "TOP ３ ITEMS OF ΟΔΟΣ" d {} = resolve "top ３ Items of Οδος" d {} ∧
          ∀ style, answer "TOP ３ ITEMS OF ΟΔΟΣ" d {} style =
            answer "top ３ Items of Οδος" d {} style := by
  have h : Text.lower "TOP ３ ITEMS OF ΟΔΟΣ" = Text.lower "top ３ Items of Οδος" := by
    decide +kernel
  exact ⟨h, _, rfl, answers_ignore_case h _ {}⟩

end SalesDesk
