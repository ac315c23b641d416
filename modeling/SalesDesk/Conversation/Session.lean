import SalesDesk.Answer.Stages
import SalesDesk.Assistant.Model
import SalesDesk.Reply.Cuts

/-!
A conversation about one ledger. Each message goes to the assistant, if there is one, and is
answered by the rules of this library otherwise, or when the assistant is not available. A message
that fails changes nothing.
-/
namespace SalesDesk

structure Session where
  dataset : Dataset Float
  assistant : Option Assistant := none
  style : Style := {}
  wordLimit : Int := 200
  context : Context := {}
  history : List Message := []
  /-- A message is being answered. -/
  typing : Bool := false

inductive Source
  | rules | assistant
deriving DecidableEq

namespace Source

def name : Source → String
  | rules => "local"
  | assistant => "llm"

end Source

structure Response where
  answer : String
  source : Source
  notice : Option String
  context : Context
  records : Nat

/-- What comes of a message. -/
inductive Turn
  | answered (response : Response)
  | failed (reason : String)

namespace Session

def emptyMessage : String := "Empty message"

def unexpected (reason : String) : String := "Unexpected error: " ++ reason

def fallbackNotice (reason : String) : String :=
  "⚠️ LLM Error: " ++ reason ++ "\n\nFalling back to local processing..."

/-- Is the assistant asked? An empty ledger is never shown to it. -/
def asked? (s : Session) : Option Assistant := if s.dataset.isEmpty then none else s.assistant

def recorded (s : Session) (message answer : String) (context : Context) : Session :=
  { s with
    context
    history := s.history ++ [Message.user message, Message.assistant answer]
    typing := false }

def give (s : Session) (message answer : String) (source : Source) (notice : Option String)
    (context : Context) : Turn × Session :=
  (.answered ⟨answer, source, notice, context, s.dataset.size⟩, s.recorded message answer context)

def giveUp (s : Session) (reason : String) : Turn × Session :=
  (.failed (unexpected reason), { s with typing := false })

def byRules (s : Session) (message : String) (notice : Option String) : Turn × Session :=
  match answer message s.dataset s.context s.style with
  | .ok (text, context) => s.give message text .rules notice context
  | .error f => s.giveUp f.message

def notAReply (content : Value) : String :=
  "expected string or bytes-like object, got '" ++ content.kindName ++ "'"

def byReply (s : Session) (message : String) (content : Value) : Turn × Session :=
  match Reply.ledgerCurrency s.dataset.records s.style.symbol, content with
  | .ok symbol, .text reply =>
    let text := Reply.tidy reply symbol s.wordLimit
    s.give message text .assistant none (s.context.afterFreeText message)
  | .ok _, other => s.giveUp (notAReply other)
  | .error f, _ => s.giveUp f.message

def respond (s : Session) (message : String) : Turn × Session :=
  match s.asked? with
  | none => s.byRules message none
  | some assistant =>
    match assistant message s.dataset s.context s.history with
    | .reply content => s.byReply message content
    | .unavailable reason => s.byRules message (some (fallbackNotice reason))
    | .broken reason => s.giveUp reason

def ask (s : Session) (message : String) : Turn × Session :=
  if Text.isBlankText message then (.failed emptyMessage, s)
  else { s with typing := true }.respond message

/-- Answer a message that may be no text. Whatever is empty counts as an empty message. -/
def askValue (s : Session) (message : Value) : Except Fault (Turn × Session) :=
  match message with
  | .text m => .ok (s.ask m)
  | v => if v.holdsSomething then .error (.notAMessage v) else .ok (.failed emptyMessage, s)

def clear (s : Session) : Session := { s with context := {}, history := [] }

/-- Put other rows in place of the ledger. The conversation goes on. -/
def load (s : Session) (rows : List Intake.Row) (metrics : Value) (today : Date) :
    Except Fault Session := do
  return { s with dataset := ← Dataset.ofRows rows metrics today }

def setAssistant (s : Session) (assistant : Option Assistant) : Session := { s with assistant }

end Session

end SalesDesk
