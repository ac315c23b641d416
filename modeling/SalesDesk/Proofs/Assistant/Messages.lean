import SalesDesk.Proofs.Conversation.Invariant
import SalesDesk.Proofs.Conversation.Writable
import Mathlib.Data.List.DropRight

/-!
The messages that an assistant is given: the last few of a history from a message of the user on,
and then the question. They alternate, since a history consists of whole turns. Their number is
limited, but for the limit zero, which stands for none. No message is built where the ledger or the
context holds an integer that cannot be written.
-/
namespace SalesDesk

namespace Message

/-- Messages of the user and of the assistant in turn, the first one of the user. -/
def Alternate (ms : List Message) : Prop :=
  ∀ i m, ms[i]? = some m → m.role = if i % 2 = 0 then userRole else assistantRole

theorem Alternate.of_prefix {ms more : List Message} (h : Alternate more) (hms : ms <+: more) :
    Alternate ms := by
  obtain ⟨rest, rfl⟩ := hms
  intro i m hm
  have hi : i < ms.length := (List.getElem?_eq_some_iff.mp hm).1
  exact h i m ((List.getElem?_append_left hi).trans hm)

end Message

theorem lastFew_map {β γ : Type} (limit : Int) (f : β → γ) (xs : List β) :
    lastFew limit (xs.map f) = (lastFew limit xs).map f := by
  unfold lastFew
  split
  · rw [List.length_map, List.map_drop]
  · rw [List.map_drop]

namespace Prompt

/-- What a question shows beside its words: the records, the key figures and the context. -/
def shown (d : Dataset Float) (context : Context) : Value :=
  .list [.list (d.records.map fun r => .object r.toFields), .object d.metrics.toFields,
    .object context.toFields]

theorem short_shown_iff (d : Dataset Float) (context : Context) :
    (shown d context).holdsLongInteger = false ↔ d.IsWritable ∧ context.IsWritable := by
  have hrecords :
      (Value.list (d.records.map fun r => .object r.toFields)).holdsLongInteger = false ↔
        ∀ r ∈ d.records, r.masterId.holdsLongInteger = false := by
    rw [Value.holdsLongInteger_list, List.any_map, List.any_eq_false]
    simp only [Function.comp_apply, Record.holdsLongInteger_toFields, Bool.not_eq_true]
  have hmetrics : (Value.object d.metrics.toFields).holdsLongInteger = false ↔
      Number.isWritable d.metrics.totalOrders = true ∧
        Number.isWritable d.metrics.uniqueCustomers = true := by
    rw [Value.holdsLongInteger_object]
    simp [Metrics.toFields, Value.holdsLongInteger, Number.isWritable]
  have hcontext : (Value.object context.toFields).holdsLongInteger = false ↔
      context.IsWritable := by
    rw [Value.holdsLongInteger_object, Context.IsWritable]
    cases htopic : context.topic <;> cases hdimension : context.dimension <;>
      cases hcount : context.count <;>
      simp [Context.toFields, htopic, hdimension, hcount, Value.holdsLongInteger, Number.isWritable]
  rw [shown, Value.holdsLongInteger_list, List.any_eq_false]
  simp only [List.forall_mem_cons, List.not_mem_nil, false_implies, implies_true, Bool.not_eq_true,
    hrecords, hmetrics, hcontext, and_true]
  exact ⟨fun h => ⟨⟨h.1, h.2.1.1, h.2.1.2⟩, h.2.2⟩,
    fun h => ⟨h.1.ids, ⟨h.1.orders, h.1.customers⟩, h.2⟩⟩

/-- The question is put, with its words at the end, if what it shows can be written. -/
theorem exists_question_eq (query : String) (d : Dataset Float) (context : Context) :
    ∃ asked, question query d context = (shown d context).written asked ∧
      ("\n\nQuestion: " ++ query).toList <:+ asked.toList := by
  refine ⟨_, Value.written_bind (Value.written_bind (Value.written_bind rfl)), ?_⟩
  rw [String.append_assoc]
  generalize "\n\nQuestion: " ++ query = words
  rw [String.toList_append]
  exact List.suffix_append _ _

/-- Messages without a missing part are all taken over from the first one of the user on. -/
theorem fromUser_map_ofMessage (ms : List Message) :
    fromUser (ms.map Draft.ofMessage) = .ok (ms.dropWhile (·.role != Message.userRole)) := by
  induction ms with
  | nil => rfl
  | cons m rest ih =>
    have hall : ((m :: rest).map Draft.ofMessage).mapM Draft.complete = .ok (m :: rest) := by
      rw [mapM_eq_ok_iff, List.forall₂_map_left_iff, List.forall₂_same]
      exact fun _ _ => rfl
    rw [List.map_cons] at hall ⊢
    rw [fromUser, List.dropWhile_cons]
    simp only [Draft.role?, Draft.ofMessage, ok_bind] at hall ih ⊢
    by_cases hrole : m.role = Message.userRole
    · simpa [hrole] using hall
    · simpa [hrole] using ih

theorem messages_map_ofMessage (query : String) (d : Dataset Float) (context : Context)
    (history : List Message) (turns : Int) :
    messages query d context (history.map Draft.ofMessage) turns =
      (question query d context).map fun asked =>
        (lastFew turns history).dropWhile (·.role != Message.userRole) ++ [Message.user asked] := by
  rw [messages, lastFew_map, fromUser_map_ofMessage]
  rfl

section
variable {d : Dataset Float} {context : Context}

/-- The messages before the question are the last ones of the history from one of the user on. -/
theorem exists_messages_eq (h : d.IsWritable ∧ context.IsWritable) (query : String)
    (history : List Message) (turns : Int) :
    ∃ asked, messages query d context (history.map Draft.ofMessage) turns =
        .ok ((lastFew turns history).dropWhile (·.role != Message.userRole) ++
          [Message.user asked]) ∧
      ("\n\nQuestion: " ++ query).toList <:+ asked.toList := by
  obtain ⟨asked, hasked, hwords⟩ := exists_question_eq query d context
  rw [Value.written_of_short ((short_shown_iff d context).mpr h)] at hasked
  refine ⟨asked, ?_, hwords⟩
  rw [messages_map_ofMessage, hasked]
  rfl

theorem messages_eq_error (h : ¬(d.IsWritable ∧ context.IsWritable)) (query : String)
    (history : List Message) (turns : Int) :
    messages query d context (history.map Draft.ofMessage) turns =
      .error (.tooManyDigits none) := by
  obtain ⟨asked, hasked, -⟩ := exists_question_eq query d context
  rw [← short_shown_iff, Bool.not_eq_false] at h
  rw [messages_map_ofMessage, hasked, Value.written_of_long h]
  rfl

end

/-- The last `n` messages of a history, without those before the first one of the user. -/
def recent (n : Nat) (history : List Message) : List Message :=
  (history.rtake n).dropWhile (·.role != Message.userRole)

theorem length_recent_le (n : Nat) (history : List Message) : (recent n history).length ≤ n := by
  have hsuffix : recent n history <:+ history.rtake n := List.dropWhile_suffix _
  have hle := hsuffix.length_le
  rw [List.rtake, List.length_drop] at hle
  omega

theorem dropWhile_lastFew_eq_recent {n : Nat} (hn : n ≠ 0) (history : List Message) :
    (lastFew n history).dropWhile (·.role != Message.userRole) = recent n history := by
  rw [lastFew, if_pos (by omega), Int.toNat_natCast, recent, List.rtake]

/-- A limit of zero is none: all messages are sent from the first one of the user on. -/
theorem lastFew_zero {β : Type} (xs : List β) : lastFew 0 xs = xs := rfl

/-- Of a history with its parts in place, the messages sent before the question are the last `n`
from one of the user on, and no more than `n`, exactly if `n` is not zero or the user has not said
anything; with a limit of zero they are all messages from the first one of the user on. Where the
question cannot be put, nothing is sent. -/
theorem messages_keep_limit_iff (query : String) (d : Dataset Float) (context : Context)
    (history : List Message) (n : Nat) :
    ∃ past, messages query d context (history.map Draft.ofMessage) n =
        (question query d context).map (fun asked => past ++ [Message.user asked]) ∧
      (past = recent n history ∧ past.length ≤ n ↔
        n ≠ 0 ∨ ∀ m ∈ history, m.role ≠ Message.userRole) ∧
      (n = 0 → past = history.dropWhile (·.role != Message.userRole)) := by
  refine ⟨_, messages_map_ofMessage query d context history n, ?_, ?_⟩
  · by_cases hn : n = 0
    · subst hn
      have hnone : recent 0 history = [] := List.eq_nil_of_length_eq_zero
        (Nat.le_zero.mp (length_recent_le 0 history))
      rw [hnone, Int.ofNat_zero, lastFew_zero]
      simp
    · rw [dropWhile_lastFew_eq_recent hn]
      exact ⟨fun _ => .inl hn, fun _ => ⟨rfl, length_recent_le n history⟩⟩
  · rintro rfl
    rw [Int.ofNat_zero, lastFew_zero]

/-- Nothing is to be sent of a conversation, and all of it is. -/
theorem messages_ignore_zero :
    let history := [Message.user "top customers", Message.assistant "Acme"]
    let d : Dataset Float := ⟨[], [], {}, Metrics.empty⟩
    ∃ past asked, messages "and may?" d {} (history.map Draft.ofMessage) 0 =
        .ok (past ++ [Message.user asked]) ∧
      past = history ∧ past ≠ recent 0 history ∧ 0 < past.length := by
  intro history d
  have hwritable : d.IsWritable ∧ Context.IsWritable {} :=
    ⟨⟨nofun, Number.isWritable_of_lt_word (by decide), Number.isWritable_of_lt_word (by decide)⟩,
      nofun⟩
  obtain ⟨asked, hmessages, -⟩ := exists_messages_eq hwritable "and may?" history 0
  refine ⟨history, asked, hmessages, rfl, ?_, ?_⟩
  · exact List.cons_ne_nil _ _
  · exact Nat.zero_lt_succ _

end Prompt

namespace Session

end Session

end SalesDesk
