import SalesDesk.Conversation.Session
import SalesDesk.Proofs.Outcome

/-! A session over time: what can happen to it, and what one message can do. -/
namespace SalesDesk

namespace Session

/-- A session before its first message. -/
def fresh (dataset : Dataset Float) (assistant : Option Assistant) (style : Style)
    (wordLimit : Int) : Session :=
  { dataset, assistant, style, wordLimit }

/-- What can happen to a session. Another assistant may take over at any time, so an assistant that
changes its mind is covered as well. -/
inductive Event where
  | message (content : Value)
  | clear
  | load (rows : List Intake.Row) (metrics : Value) (today : Date)
  | equip (assistant : Option Assistant)

/-- The session after an event. An event that fails leaves it as it was. -/
def after (s : Session) : Event → Session
  | .message content =>
    match s.askValue content with
    | .ok (_, next) => next
    | .error _ => s
  | .clear => s.clear
  | .load rows metrics today =>
    match s.load rows metrics today with
    | .ok next => next
    | .error _ => s
  | .equip assistant => s.setAssistant assistant

/-- A message that is no text changes nothing. -/
theorem after_message (s : Session) (content : Value) :
    s.after (.message content) = s ∨ ∃ m, s.after (.message content) = (s.ask m).2 := by
  cases content with
  | text m => exact .inr ⟨m, rfl⟩
  | _ =>
    left
    simp only [after, askValue]
    split
    · rename_i heq
      split at heq
      · cases heq
      · cases heq
        rfl
    · rfl

/-- The session after some events, one after the other. -/
def run (s : Session) (events : List Event) : Session := events.foldl after s

/-- What holds of a fresh session and survives every event holds after all of them. -/
theorem run_induction {P : Session → Prop} {s : Session} (hs : P s)
    (hstep : ∀ s e, P s → P (s.after e)) (events : List Event) : P (s.run events) := by
  induction events generalizing s with
  | nil => exact hs
  | cons e rest ih => exact ih (hstep s e hs)

/-- The contexts that an answer may leave: one inferred from the words of the question, or the one
that goes with what the rules answer to it. -/
inductive Follows (message : String) (d : Dataset Float) (c : Context) : Context → Prop
  | freeText : Follows message d c (c.afterFreeText message)
  | result {stage : Stage} {r : Result Float} (h : resolve message d c = .ok (stage, r)) :
    Follows message d c (r.nextContext c)

/-- A message is turned away for being blank, given up on, or answered. Only an answer is written
into the history, and with it the context is replaced. -/
inductive AskOutcome (s : Session) (message : String) : Turn × Session → Prop
  | blank (h : Text.isBlankText message = true) :
    AskOutcome s message (.failed emptyMessage, s)
  | givenUp (reason : String) :
    AskOutcome s message (.failed (unexpected reason), { s with typing := false })
  | answered (text : String) (source : Source) (notice : Option String) {context : Context}
    (hblank : Text.isBlankText message = false)
    (hc : Follows message s.dataset s.context context) :
    AskOutcome s message
      (.answered ⟨text, source, notice, context, s.dataset.size⟩, s.recorded message text context)

private theorem byRules_outcome (s : Session) {message : String} (notice : Option String)
    (hblank : Text.isBlankText message = false) :
    AskOutcome s message (({ s with typing := true } : Session).byRules message notice) := by
  unfold byRules
  cases hanswer : answer message s.dataset s.context s.style with
  | error f => exact .givenUp f.message
  | ok told =>
    obtain ⟨⟨stage, result⟩, hresolve, htext⟩ := bind_eq_ok.mp hanswer
    obtain ⟨text, -, hcontext⟩ := bind_eq_ok.mp htext
    cases hcontext
    exact .answered text .rules notice hblank (.result hresolve)

private theorem byReply_outcome (s : Session) {message : String} (content : Value)
    (hblank : Text.isBlankText message = false) :
    AskOutcome s message (({ s with typing := true } : Session).byReply message content) := by
  unfold byReply
  split
  · exact .answered _ .assistant none hblank .freeText
  · exact .givenUp _
  · exact .givenUp _

/-- All that can come of a message. -/
theorem ask_outcome (s : Session) (message : String) : AskOutcome s message (s.ask message) := by
  unfold ask
  split
  case isTrue h => exact .blank h
  case isFalse h =>
    have hblank : Text.isBlankText message = false := by simpa using h
    unfold respond
    split
    · exact byRules_outcome s none hblank
    · split
      · exact byReply_outcome s _ hblank
      · exact byRules_outcome s _ hblank
      · exact .givenUp _

end Session

end SalesDesk
