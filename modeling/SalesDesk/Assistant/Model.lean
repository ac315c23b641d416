import SalesDesk.Assistant.Prompt
import SalesDesk.Settings

/-! An assistant that sends its prompt to a language model. -/
namespace SalesDesk

inductive Outcome where
  /-- The assistant answers; anything but a text cannot be used. -/
  | reply (content : Value)
  /-- The assistant is not available. -/
  | unavailable (reason : String)
  /-- The assistant breaks down. -/
  | broken (reason : String)

abbrev Assistant := String → Dataset Float → Context → List Message → Outcome

structure Model where
  name : String
  maxTokens : Int
  historyTurns : Int
  wordLimit : Int
  /-- What a ledger without a currency of its own is counted in. -/
  symbol : String

structure Model.Request where
  model : String
  maxTokens : Int
  system : String
  messages : List Message

inductive Model.Response where
  | failed (reason : String)
  | blocks (texts : List (Option Value))

namespace Model

def placeholderKey : String := "your_api_key_here"

def ofSettings (s : Settings) : Model :=
  ⟨s.model, s.maxTokens, s.historyTurns, s.wordLimit, s.symbol⟩

def make (key : Option String) (s : Settings) : Except Fault Model :=
  match key with
  | none => .error .noKey
  | some key => if key.isEmpty || key == placeholderKey then .error .noKey else .ok (ofSettings s)

/-- The request for a question. It announces the currency of the ledger. -/
def request (m : Model) (query : String) (dataset : Dataset Float) (context : Context)
    (history : List Draft) : Except Fault Request := do
  let symbol ← Reply.ledgerCurrency dataset.records m.symbol
  let messages ← Prompt.messages query dataset context history m.historyTurns
  let system ← Number.written m.wordLimit (Prompt.system symbol m.wordLimit)
  return ⟨m.name, m.maxTokens, system, messages⟩

def failure (reason : String) : String := "Claude API error: " ++ reason

def outcome : Response → Outcome
  | .failed reason => .unavailable (failure reason)
  | .blocks (some content :: _) =>
    if content.holdsSomething then .reply content else .unavailable (failure "empty response")
  | .blocks _ => .unavailable (failure "empty response")

/-- The model as an assistant, `send` being its service. -/
def assistant (m : Model) (send : Request → Response) : Assistant :=
  fun query dataset context history =>
    match m.request query dataset context (history.map Draft.ofMessage) with
    | .ok request => outcome (send request)
    | .error f => .broken f.message

end Model

end SalesDesk
