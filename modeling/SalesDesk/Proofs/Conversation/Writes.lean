import SalesDesk.Proofs.Conversation.Run

/-!
A session write by write. A step may stop at any point, and what it has written by then stays
written. Each step comes to what the session says of the whole of it: all its writes, or none.
-/
namespace SalesDesk.Session

inductive Stop where
  /-- The assistant is not available, so the rules may answer in its place. -/
  | unavailable (reason : String)
  | broken (reason : String)

def Stop.reason : Stop → String
  | unavailable reason | broken reason => reason

/-- Reads and writes of a session, one after the other. -/
abbrev Step (ε β : Type) := EStateM ε Session β

structure Found where
  text : String
  source : Source
  notice : Option String

/-- A reply of the assistant as the session gives it, or why it cannot be given. -/
def tidied (s : Session) (content : Value) : Except String String :=
  match Reply.ledgerCurrency s.dataset.records s.style.symbol, content with
  | .ok symbol, .text reply => .ok (Reply.tidy reply symbol s.wordLimit)
  | .ok _, other => .error (notAReply other)
  | .error f, _ => .error f.message

namespace Step

variable {ε β : Type}

/-- What a step gives, and the session that it leaves behind. -/
def outcome (p : Step ε β) (s : Session) : Except ε β × Session :=
  match p.run s with
  | .ok b next => (.ok b, next)
  | .error e next => (.error e, next)

def byRules (message : String) (notice : Option String) : Step Stop Found := do
  let s ← get
  match answer message s.dataset s.context s.style with
  | .ok (text, context) =>
    set { s with context }
    return ⟨text, .rules, notice⟩
  | .error f => throw (.broken f.message)

def byReply (assistant : Assistant) (message : String) : Step Stop Found := do
  let s ← get
  match assistant message s.dataset s.context s.history with
  | .reply content =>
    match s.tidied content with
    | .ok text =>
      set { s with context := s.context.afterFreeText message }
      return ⟨text, .assistant, none⟩
    | .error reason => throw (.broken reason)
  | .unavailable reason => throw (.unavailable reason)
  | .broken reason => throw (.broken reason)

/-- Find an answer. Where the assistant is not available, the rules go on from the session as the
attempt has left it. -/
def find (message : String) : Step Stop Found := do
  let s ← get
  match s.asked? with
  | none => byRules message none
  | some assistant =>
    tryCatch (byReply assistant message) fun
      | .unavailable reason => byRules message (some (fallbackNotice reason))
      | .broken reason => throw (.broken reason)

/-- Write a message into the history. -/
def note (m : Message) : Step ε Unit := modify fun s => { s with history := s.history ++ [m] }

/-- A turn: its answer, then both messages. -/
def turn (message : String) : Step Stop Turn := do
  let found ← find message
  note (.user message)
  note (.assistant found.text)
  let s ← get
  return .answered ⟨found.text, found.source, found.notice, s.context, s.dataset.size⟩

def settle (p : Step Stop Turn) : Step ε Turn := fun s =>
  match p.run s with
  | .ok t next => .ok t next
  | .error stop next => .ok (.failed (unexpected stop.reason)) next

def setTyping (typing : Bool) : Step ε Unit := modify fun s => { s with typing }

def marked (message : String) : Step ε Turn := do
  setTyping true
  let t ← settle (turn message)
  setTyping false
  return t

/-- Process a message. -/
def process (message : Value) : Step Fault Turn :=
  match message with
  | .text m => if Text.isBlankText m then return .failed emptyMessage else marked m
  | other =>
    if other.holdsSomething then throw (.notAMessage other) else return .failed emptyMessage

/-- Put other rows in place of the ledger. -/
def load (rows metrics : Value) (today : Date) : Step Fault Unit :=
  match (do Dataset.ofRows (← Intake.rowsOf rows) metrics today :
    Except Fault (Dataset Float)) with
  | .ok dataset => modify fun s => { s with dataset }
  | .error f => throw f

/-! ### What the steps come to -/

theorem run_get_bind (f : Session → Step ε β) (s : Session) : (get >>= f).run s = (f s).run s := rfl

theorem run_byRules (message : String) (notice : Option String) (s : Session) :
    (byRules message notice).run s =
      match answer message s.dataset s.context s.style with
      | .ok (text, context) => .ok ⟨text, .rules, notice⟩ { s with context }
      | .error f => .error (.broken f.message) s := by
  rw [byRules, run_get_bind]
  cases answer message s.dataset s.context s.style with
  | ok told => rfl
  | error f => rfl

/-- An attempt that fails writes nothing. -/
theorem run_byReply (assistant : Assistant) (message : String) (s : Session) :
    (byReply assistant message).run s =
      match assistant message s.dataset s.context s.history with
      | .reply content =>
        match s.tidied content with
        | .ok text =>
          .ok ⟨text, .assistant, none⟩ { s with context := s.context.afterFreeText message }
        | .error reason => .error (.broken reason) s
      | .unavailable reason => .error (.unavailable reason) s
      | .broken reason => .error (.broken reason) s := by
  rw [byReply, run_get_bind]
  cases assistant message s.dataset s.context s.history with
  | reply content =>
    simp only
    cases s.tidied content with
    | ok text => rfl
    | error reason => rfl
  | unavailable reason => rfl
  | broken reason => rfl

theorem run_settle (p : Step Stop Turn) (s : Session) :
    (settle p : Step ε Turn).run s =
      match p.run s with
      | .ok t next => .ok t next
      | .error stop next => .ok (.failed (unexpected stop.reason)) next := rfl

/-- The history is written when nothing can stop the turn any more. -/
theorem run_turn (message : String) (s : Session) :
    (turn message).run s =
      match (find message).run s with
      | .ok found next =>
        .ok (.answered ⟨found.text, found.source, found.notice, next.context, next.dataset.size⟩)
          { next with
            history := next.history ++ [Message.user message] ++ [Message.assistant found.text] }
      | .error stop next => .error stop next := by
  simp only [turn, note, EStateM.run_bind]
  cases (find message).run s with
  | ok found next => rfl
  | error stop next => rfl

/-- What a turn comes to once its answer is found, or is not. -/
def closed (message : String) : EStateM.Result Stop Session Found → Turn × Session
  | .ok found next =>
    (.answered ⟨found.text, found.source, found.notice, next.context, next.dataset.size⟩,
      next.recorded message found.text next.context)
  | .error stop next => (.failed (unexpected stop.reason), { next with typing := false })

theorem run_marked (message : String) (s : Session) :
    (marked message : Step ε Turn).run s =
      .ok (closed message ((find message).run { s with typing := true })).1
        (closed message ((find message).run { s with typing := true })).2 := by
  simp only [marked, setTyping, EStateM.run_bind, EStateM.run_modify, run_settle, run_turn]
  cases (find message).run { s with typing := true } with
  | ok found next => simp [closed, recorded]
  | error stop next => rfl

theorem run_find (message : String) (s : Session) :
    (find message).run s =
      match s.asked? with
      | none => (byRules message none).run s
      | some assistant =>
        match (byReply assistant message).run s with
        | .ok found next => .ok found next
        | .error (.unavailable reason) next =>
          (byRules message (some (fallbackNotice reason))).run next
        | .error (.broken reason) next => .error (.broken reason) next := by
  rw [find, run_get_bind]
  cases s.asked? with
  | none => rfl
  | some assistant =>
    have hcatch : ∀ handler, (tryCatch (byReply assistant message) handler).run s =
        match (byReply assistant message).run s with
        | .ok found next => .ok found next
        | .error stop next => (handler stop).run next := by
      intro handler
      change EStateM.tryCatch _ _ _ = _
      unfold EStateM.tryCatch EStateM.run
      cases byReply assistant message s with
      | ok found next => rfl
      | error stop next => rfl
    simp only [hcatch]
    cases (byReply assistant message).run s with
    | ok found next => rfl
    | error stop next =>
      cases stop with
      | unavailable reason => rfl
      | broken reason => rfl

theorem closed_byRules (message : String) (notice : Option String) (s : Session) :
    closed message ((byRules message notice).run s) = s.byRules message notice := by
  rw [run_byRules, Session.byRules]
  cases answer message s.dataset s.context s.style with
  | ok told => rfl
  | error f => rfl

theorem closed_find (message : String) (s : Session) :
    closed message ((find message).run s) = s.respond message := by
  rw [run_find, respond]
  cases s.asked? with
  | none => exact closed_byRules message none s
  | some assistant =>
    simp only [run_byReply]
    cases assistant message s.dataset s.context s.history with
    | reply content =>
      cases hsymbol : Reply.ledgerCurrency s.dataset.records s.style.symbol with
      | error f => simp only [tidied, Session.byReply, hsymbol, closed, giveUp, Stop.reason]
      | ok symbol =>
        cases content with
        | text reply => simp only [tidied, Session.byReply, hsymbol, closed, give, recorded]
        | _ => simp only [tidied, Session.byReply, hsymbol, closed, giveUp, Stop.reason]
    | unavailable reason => exact closed_byRules message _ s
    | broken reason => rfl

def whole (s : Session) : Except Fault (β × Session) → Except Fault β × Session
  | .ok (b, next) => (.ok b, next)
  | .error f => (.error f, s)

/-- All writes of a message together are what the session says of it. -/
theorem outcome_process (message : Value) (s : Session) :
    (process message).outcome s = whole s (s.askValue message) := by
  have hother : ∀ v : Value, (if v.holdsSomething then throw (.notAMessage v)
        else return .failed emptyMessage : Step Fault Turn).outcome s =
      whole s (if v.holdsSomething then .error (.notAMessage v)
        else .ok (.failed emptyMessage, s)) := by
    intro v
    cases v.holdsSomething with
    | true => rfl
    | false => rfl
  cases message with
  | text m =>
    simp only [process, askValue, ask]
    by_cases hblank : Text.isBlankText m = true
    · rw [if_pos hblank, if_pos hblank]
      rfl
    · rw [if_neg hblank, if_neg hblank, outcome, run_marked, closed_find]
      rfl
  | null => exact hother .null
  | date d => exact hother (.date d)
  | moment m => exact hother (.moment m)
  | _ => exact hother _

theorem outcome_load (rows metrics : Value) (today : Date) (s : Session) :
    (load rows metrics today).outcome s =
      whole s (do return ((), ← s.load (← Intake.rowsOf rows) metrics today)) := by
  unfold load Session.load
  cases Intake.rowsOf rows with
  | error f => rfl
  | ok read =>
    simp only [ok_bind]
    cases Dataset.ofRows read metrics today with
    | ok dataset => rfl
    | error f => rfl

end Step

end SalesDesk.Session
