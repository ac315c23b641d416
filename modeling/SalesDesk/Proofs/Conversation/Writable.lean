import SalesDesk.Proofs.Answer.Formed
import SalesDesk.Proofs.Conversation.Run
import SalesDesk.Proofs.Ledger.Writable
import Mathlib.Tactic.SplitIfs

/-!
Sessions in which every integer can be written. Where all data come from JSON texts, a session is
always one of these: the count that its context remembers is fixed, or a question has stated it.
-/
namespace SalesDesk

/-- The count of the context, if there is one, can be written. -/
def Context.IsWritable (c : Context) : Prop :=
  ∀ n, c.count = some n → Number.isWritable n = true

section
variable {α : Type} {r : Request α}

theorem Answer.Route.isWritable_of_limits (hr : r.CountsWritable) (route : Route) {limit : Int}
    (h : route.Limits r limit) : Number.isWritable limit = true := by
  cases route with
  | comparison | period =>
    obtain rfl : limit = _ := h
    exact Number.isWritable_of_lt_word (by decide)
  | customer | product | ranking | clarification | overall | pass => exact h.writable hr

theorem Stage.isWritable_of_limits (hr : r.CountsWritable) (stage : Stage) {limit : Int}
    (h : stage.Limits r limit) : Number.isWritable limit = true := by
  cases stage with
  | structured => exact (Answer.route r).isWritable_of_limits hr h
  | _ => exact h.writable hr

variable [Figure α]

/-- The count of an answer is one, a limit of its stage, or the count that the question states. -/
theorem isWritable_count_resolve (query : String) (d : Dataset α) (context : Context) :
    GivesOnly (resolve query d context) fun found =>
      ∀ n, found.2.count = some n → Number.isWritable n = true := by
  apply givesOnly_resolve
    (P := fun _ result => ∀ n, result.count = some n → Number.isWritable n = true) nofun nofun
  intro r hr stage
  constructor
  intro answer hanswer result hresult n hn
  have hformed := (stage.formed_strategy r).of_ok answer hanswer result hresult
  rcases hformed.counted hn with rfl | hlimit
  · exact Number.isWritable_of_lt_word (by decide)
  · exact stage.isWritable_of_limits (Request.countsWritable_of_make hr) hlimit

end

namespace Session

structure IsWritable (s : Session) : Prop where
  dataset : s.dataset.IsWritable
  context : s.context.IsWritable

variable {s : Session} {message : String} {context : Context}

theorem isWritable_of_follows (h : s.context.IsWritable)
    (hc : Follows message s.dataset s.context context) : context.IsWritable := by
  cases hc with
  | freeText =>
    unfold Context.afterFreeText
    simp only
    split_ifs <;> exact h
  | result hresolve =>
    unfold Result.nextContext
    split
    · exact h
    · exact (isWritable_count_resolve _ _ _).of_ok _ hresolve

theorem IsWritable.ask (h : s.IsWritable) (message : String) : (s.ask message).2.IsWritable := by
  have hout := ask_outcome s message
  revert hout
  generalize s.ask message = out
  rintro (hblank | reason | ⟨text, source, notice, hblank, hc⟩)
  · exact h
  · exact ⟨h.dataset, h.context⟩
  · exact ⟨h.dataset, isWritable_of_follows h.context hc⟩

/-- Do all data that come with an event come from JSON texts? -/
def Event.FromText : Event → Prop
  | .load rows metrics _ => Intake.FromText rows metrics
  | _ => True

theorem IsWritable.after (h : s.IsWritable) {e : Event} (he : e.FromText) :
    (s.after e).IsWritable := by
  cases e with
  | message content =>
    rcases after_message s content with hkept | ⟨m, hasked⟩
    · rw [hkept]
      exact h
    · rw [hasked]
      exact h.ask m
  | clear => exact ⟨h.dataset, nofun⟩
  | load rows metrics today =>
    simp only [Session.after, Session.load]
    cases hload : Dataset.ofRows rows metrics today with
    | error f => exact h
    | ok dataset => exact ⟨Dataset.isWritable_of_fromText he hload, h.context⟩
  | equip assistant => exact ⟨h.dataset, h.context⟩

end Session

end SalesDesk
