import SalesDesk.Proofs.Conversation.Run
import Mathlib.Tactic.SplitIfs

/-! What holds of a session at all times: its history consists of whole turns, nothing is being
answered between messages, and its context is either empty or about one dimension. -/
namespace SalesDesk

/-- The topic of a context goes with its dimension, and without a dimension there is no count. -/
def Context.Coherent (c : Context) : Prop :=
  c.topic = c.dimension.map Dimension.topic ∧ (c.dimension = none → c.count = none)

theorem Context.coherent_empty : Context.Coherent {} := ⟨rfl, fun _ => rfl⟩

theorem Context.Coherent.afterFreeText {c : Context} (h : c.Coherent) (query : String) :
    (c.afterFreeText query).Coherent := by
  unfold Context.afterFreeText
  simp only
  split_ifs
  · exact ⟨rfl, nofun⟩
  · exact ⟨rfl, nofun⟩
  · exact ⟨rfl, nofun⟩
  · exact h

theorem Context.Coherent.nextContext {c : Context} (h : c.Coherent) {α : Type} (r : Result α) :
    (r.nextContext c).Coherent := by
  unfold Result.nextContext
  split
  · exact h
  · exact ⟨rfl, nofun⟩

namespace Session

def messagesOf (turns : List (String × String)) : List Message :=
  turns.flatMap fun t => [Message.user t.1, Message.assistant t.2]

/-- Questions stand at the even places of a history and answers at the odd ones. -/
theorem role_messagesOf (turns : List (String × String)) (i : Nat) {m : Message}
    (hm : (messagesOf turns)[i]? = some m) :
    m.role = if i % 2 = 0 then Message.userRole else Message.assistantRole := by
  induction turns generalizing i with
  | nil => simp [messagesOf] at hm
  | cons t rest ih =>
    match i with
    | 0 => obtain rfl : Message.user t.1 = m := by simpa [messagesOf] using hm
           rfl
    | 1 => obtain rfl : Message.assistant t.2 = m := by simpa [messagesOf] using hm
           rfl
    | i + 2 =>
      have hrest : (messagesOf rest)[i]? = some m := by simpa [messagesOf] using hm
      rw [ih i hrest, Nat.add_mod_right]

theorem length_messagesOf (turns : List (String × String)) :
    (messagesOf turns).length = 2 * turns.length := by
  induction turns with
  | nil => rfl
  | cons t rest ih =>
    have hcons : messagesOf (t :: rest) = Message.user t.1 :: Message.assistant t.2 ::
      messagesOf rest := rfl
    rw [hcons, List.length_cons, List.length_cons, List.length_cons, ih]
    omega

theorem mem_messagesOf_user {turns : List (String × String)} {m : Message}
    (hm : m ∈ messagesOf turns) (hr : m.role = Message.userRole) :
    ∃ t ∈ turns, m.content = t.1 := by
  obtain ⟨t, ht, hmt⟩ := List.mem_flatMap.mp hm
  simp only [List.mem_cons, List.not_mem_nil, or_false] at hmt
  rcases hmt with rfl | rfl
  · exact ⟨t, ht, rfl⟩
  · exact absurd hr (by simp [Message.assistant, Message.assistantRole, Message.userRole])

structure Invariant (s : Session) : Prop where
  turns : ∃ turns, s.history = messagesOf turns ∧ ∀ t ∈ turns, Text.isBlankText t.1 = false
  idle : s.typing = false
  context : s.context.Coherent

theorem Invariant.recorded {s : Session} (h : s.Invariant) {message : String} (answer : String)
    {context : Context} (hblank : Text.isBlankText message = false) (hc : context.Coherent) :
    (s.recorded message answer context).Invariant := by
  obtain ⟨turns, hturns, hall⟩ := h.turns
  refine ⟨⟨turns ++ [(message, answer)], ?_, ?_⟩, rfl, hc⟩
  · simp [Session.recorded, hturns, messagesOf]
  · simpa [or_imp, forall_and, hblank] using fun q a => hall (q, a)

theorem Invariant.ask {s : Session} (h : s.Invariant) (message : String) :
    (s.ask message).2.Invariant := by
  have hout := ask_outcome s message
  revert hout
  generalize s.ask message = out
  rintro (hblank | reason | ⟨text, source, notice, hblank, hc⟩)
  · exact h
  · exact ⟨h.turns, rfl, h.context⟩
  · apply h.recorded text hblank
    cases hc with
    | freeText => exact h.context.afterFreeText message
    | result _ => exact h.context.nextContext _

theorem Invariant.after {s : Session} (h : s.Invariant) (e : Event) : (s.after e).Invariant := by
  cases e with
  | message content =>
    rcases after_message s content with hkept | ⟨m, hasked⟩
    · rw [hkept]
      exact h
    · rw [hasked]
      exact h.ask m
  | clear => exact ⟨⟨[], rfl, nofun⟩, h.idle, Context.coherent_empty⟩
  | load rows metrics today =>
    simp only [Session.after, Session.load]
    cases Dataset.ofRows rows metrics today with
    | error f => exact h
    | ok dataset => exact ⟨h.turns, h.idle, h.context⟩
  | equip assistant => exact ⟨h.turns, h.idle, h.context⟩

theorem invariant_fresh (dataset : Dataset Float) (assistant : Option Assistant) (style : Style)
    (wordLimit : Int) : (fresh dataset assistant style wordLimit).Invariant :=
  ⟨⟨[], rfl, nofun⟩, rfl, Context.coherent_empty⟩

/-- After any events the history consists of whole turns, a question that is not blank and its
answer, no message is being answered, and the context is empty or goes with one dimension. -/
theorem run_fresh_consistent (dataset : Dataset Float) (assistant : Option Assistant)
    (style : Style) (wordLimit : Int) (events : List Event) :
    let s := (fresh dataset assistant style wordLimit).run events
    s.history.length % 2 = 0 ∧
      (∀ i m, s.history[i]? = some m →
        m.role = if i % 2 = 0 then Message.userRole else Message.assistantRole) ∧
      (∀ m ∈ s.history, m.role = Message.userRole → Text.isBlankText m.content = false) ∧
      s.typing = false ∧
      ((s.context.topic = none ∧ s.context.dimension = none ∧ s.context.count = none) ∨
        ∃ d, s.context.topic = some d.topic ∧ s.context.dimension = some d) := by
  intro s
  have h : s.Invariant := run_induction (invariant_fresh dataset assistant style wordLimit)
    (fun _ e hs => hs.after e) events
  obtain ⟨turns, hturns, hall⟩ := h.turns
  refine ⟨?_, ?_, ?_, h.idle, ?_⟩
  · rw [hturns, length_messagesOf, Nat.mul_mod_right]
  · intro i m hm
    exact role_messagesOf turns i (hturns ▸ hm)
  · intro m hm hr
    obtain ⟨t, ht, hmt⟩ := mem_messagesOf_user (hturns ▸ hm) hr
    exact hmt ▸ hall t ht
  · obtain ⟨htopic, hcount⟩ := h.context
    cases hd : s.context.dimension with
    | none => exact .inl ⟨by rw [htopic, hd]; rfl, rfl, hcount hd⟩
    | some d => exact .inr ⟨d, by rw [htopic, hd]; rfl, rfl⟩

end Session

end SalesDesk
