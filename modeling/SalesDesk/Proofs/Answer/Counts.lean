import SalesDesk.Answer.Request
import SalesDesk.Proofs.Outcome
import SalesDesk.Proofs.Query.Counts

/-! The counts of a question are read off a text, so that they can be written again. -/
namespace SalesDesk.Request

variable {α : Type} {r : Request α}

structure CountsWritable (r : Request α) : Prop where
  stated : ∀ n, r.stated = some n → Number.isWritable n = true
  count : ∀ n, r.mentions.count = some n → Number.isWritable n = true

theorem countsWritable_of_make {query : String} {d : Dataset α} {context : Context}
    (h : make query d context = .ok r) : r.CountsWritable := by
  obtain ⟨reading, hreading, h⟩ := bind_eq_ok.mp h
  obtain ⟨count, hcount, hreading⟩ := bind_eq_ok.mp hreading
  cases hreading
  cases h
  have hwritable : ∀ n, count = some n → Number.isWritable n = true := fun n hn =>
    Query.isWritable_of_count? (hn ▸ hcount)
  exact ⟨hwritable, hwritable⟩

namespace CountsWritable

theorem isWritable_getD (h : r.CountsWritable) {other : Int}
    (hother : Number.isWritable other = true) :
    Number.isWritable (r.stated.getD other) = true := by
  cases hstated : r.stated with
  | none => exact hother
  | some n => exact h.stated n hstated

theorem isWritable_count (h : r.CountsWritable) {n : Int}
    (hn : r.mentions.count.filter (· != 0) = some n) : Number.isWritable n = true :=
  h.count n (Option.eq_some_of_filter_eq_some hn)

theorem isWritable_countOr (h : r.CountsWritable) {other : Int}
    (hother : Number.isWritable other = true) : Number.isWritable (r.countOr other) = true := by
  unfold countOr
  cases hcount : r.mentions.count.filter (· != 0) with
  | none => exact hother
  | some n => exact h.isWritable_count hcount

end CountsWritable

end SalesDesk.Request
