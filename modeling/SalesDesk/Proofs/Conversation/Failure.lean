import SalesDesk.Proofs.Conversation.Invariant
import SalesDesk.Proofs.Conversation.Writes

/-!
What a failure leaves behind in a session: nothing of what it has written. An assistant that is not
available leaves no more than a notice.
-/
namespace SalesDesk

/-- A turn without its notice. -/
def Turn.silent : Turn → Turn
  | .answered r => .answered { r with notice := none }
  | .failed reason => .failed reason

namespace Session

/-- Is it a failure, whether it is told or thrown? -/
def Failed : Except Fault Turn → Prop
  | .error _ | .ok (.failed _) => True
  | .ok (.answered _) => False

theorem askValue_of_not_text (s : Session) {message : Value} (h : ∀ m, message ≠ .text m) :
    s.askValue message =
      if message.holdsSomething then .error (.notAMessage message)
      else .ok (.failed emptyMessage, s) := by
  cases message with
  | text m => exact absurd rfl (h m)
  | _ => rfl

theorem eq_of_askValue_failed {s next : Session} (hidle : s.typing = false) {message : Value}
    {reason : String} (h : s.askValue message = .ok (.failed reason, next)) : next = s := by
  by_cases htext : ∃ m, message = .text m
  · obtain ⟨m, rfl⟩ := htext
    have hask : s.ask m = (.failed reason, next) := Except.ok.inj h
    have hout := ask_outcome s m
    rw [hask] at hout
    cases hout with
    | blank => rfl
    | givenUp => rw [← hidle]
  · rw [askValue_of_not_text s fun m hm => htext ⟨m, hm⟩] at h
    split at h
    · cases h
    · exact (Prod.mk.inj (Except.ok.inj h)).2.symm

/-- A message that fails, wherever its turn stops, leaves all of a session as it was at any time
between messages, and so does a load that fails. -/
theorem run_fresh_failure_keeps (dataset : Dataset Float) (assistant : Option Assistant)
    (style : Style) (wordLimit : Int) (events : List Event) :
    let s := (fresh dataset assistant style wordLimit).run events
    (∀ message out next, (Step.process message).outcome s = (out, next) → Failed out →
      next = s ∧ next.typing = false) ∧
    (∀ message reason next, s.askValue message = .ok (.failed reason, next) → next = s) ∧
    (∀ rows metrics today fault next,
      (Step.load rows metrics today).outcome s = (.error fault, next) →
        next = s ∧ next.typing = false) := by
  intro s
  -- The mark of a turn under way is off between messages, so to take it back changes nothing.
  have hidle : s.typing = false := (run_induction (P := Invariant)
    (invariant_fresh dataset assistant style wordLimit) (fun _ e hs => hs.after e) events).idle
  refine ⟨?_, fun _ _ _ => eq_of_askValue_failed hidle, ?_⟩
  · intro message out next hout hfailed
    rw [Step.outcome_process] at hout
    cases hask : s.askValue message with
    | error f =>
      rw [hask] at hout
      obtain ⟨-, rfl⟩ := Prod.mk.inj hout
      exact ⟨rfl, hidle⟩
    | ok told =>
      obtain ⟨t, after⟩ := told
      rw [hask] at hout
      obtain ⟨rfl, rfl⟩ := Prod.mk.inj hout
      cases t with
      | answered r => exact hfailed.elim
      | failed reason =>
        obtain rfl := eq_of_askValue_failed hidle hask
        exact ⟨rfl, hidle⟩
  · intro rows metrics today fault next hout
    rw [Step.outcome_load] at hout
    cases hload : (do return ((), ← s.load (← Intake.rowsOf rows) metrics today) :
        Except Fault (Unit × Session)) with
    | error f =>
      rw [hload] at hout
      obtain ⟨-, rfl⟩ := Prod.mk.inj hout
      exact ⟨rfl, hidle⟩
    | ok loaded =>
      rw [hload] at hout
      cases hout

/-- A session about one record, with an assistant to which always the same happens. -/
def alwaysGetting (outcome : Outcome) : Session :=
  let sale : Record Float :=
    { customer := "Acme", item := "Steel", category := "", region := "", amount := 100,
      quantity := 1, masterId := .text "m1", date := ⟨2024, 4, 2⟩ }
  fresh ⟨[sale], [sale], Vocabulary.ofRecords [sale], ⟨100, 1, 1, 1, 100⟩⟩
    (some fun _ _ _ _ => outcome) {} 200

theorem run_fresh_failure_keeps_broken :
    let s := (alwaysGetting (.broken "'down'")).run [.message (.text " "), .clear]
    (∃ next, (Step.process (.text "top 3")).outcome s =
      (.ok (.failed (unexpected "'down'")), next) ∧ next = s ∧ next.typing = false) ∧
    ∃ fault next, (Step.load (.int 5) .null .standIn).outcome s = (.error fault, next) ∧
      next = s ∧ next.typing = false := by
  intro s
  obtain ⟨hmessage, -, hload⟩ := run_fresh_failure_keeps (alwaysGetting (.broken "'down'")).dataset
    (alwaysGetting (.broken "'down'")).assistant {} 200 [.message (.text " "), .clear]
  have hstops : (Step.process (.text "top 3")).outcome s =
    (.ok (.failed (unexpected "'down'")), s) := rfl
  have hrefused : (Step.load (.int 5) .null .standIn).outcome s =
    (.error (.rowsNotAList (.int 5)), s) := rfl
  exact ⟨⟨s, hstops, hmessage _ _ _ hstops trivial⟩, _, s, hrefused, hload _ _ _ _ _ hrefused⟩

/-! ### An assistant that is not available -/

/-- The rules answer alike for a session with an assistant and for one without. -/
theorem byRules_setAssistant (s : Session) (message : String) (notice : Option String) :
    ((s.byRules message notice).1.silent, (s.byRules message notice).2.setAssistant none) =
      (s.setAssistant none).byRules message none := by
  unfold byRules
  cases h : answer message s.dataset s.context s.style with
  | error f => simp [h, setAssistant, giveUp, Turn.silent]
  | ok told => simp [h, setAssistant, give, recorded, Turn.silent]

/-- Where an assistant is not available, a message comes to what it comes to without an assistant,
but for the notice. -/
theorem ask_of_unavailable {s : Session} {message reason : String}
    (h : ∀ assistant, s.asked? = some assistant →
      assistant message s.dataset s.context s.history = .unavailable reason) :
    ((s.ask message).1.silent, (s.ask message).2.setAssistant none) =
      (s.setAssistant none).ask message := by
  have halone : (({ s with typing := true } : Session).setAssistant none).asked? = none :=
    ite_self none
  unfold ask
  split
  · rfl
  · change _ = (({ s with typing := true } : Session).setAssistant none).respond message
    rw [respond, respond, halone]
    cases hasked : s.asked? with
    | none =>
      rw [show ({ s with typing := true } : Session).asked? = none from hasked]
      exact byRules_setAssistant _ message none
    | some assistant =>
      rw [show ({ s with typing := true } : Session).asked? = some assistant from hasked]
      simp only [h assistant hasked]
      exact byRules_setAssistant _ message _

theorem notice_of_byRules {s : Session} {message : String} {notice : Option String} {r : Response}
    (h : (s.byRules message notice).1 = .answered r) : r.notice = notice := by
  unfold byRules at h
  split at h
  · obtain rfl := Turn.answered.inj h
    rfl
  · cases h

theorem notice_of_unavailable {s : Session} {message reason : String}
    (h : ∀ assistant, s.asked? = some assistant →
      assistant message s.dataset s.context s.history = .unavailable reason) {r : Response}
    (hr : (s.ask message).1 = .answered r) :
    r.notice = s.asked?.map fun _ => fallbackNotice reason := by
  unfold ask at hr
  split at hr
  · cases hr
  · rw [respond] at hr
    cases hasked : s.asked? with
    | none =>
      rw [show ({ s with typing := true } : Session).asked? = none from hasked] at hr
      exact notice_of_byRules hr
    | some assistant =>
      rw [show ({ s with typing := true } : Session).asked? = some assistant from hasked] at hr
      simp only [h assistant hasked] at hr
      exact notice_of_byRules hr

/-- An assistant that is not available for a message makes no difference but for the notice, and
where there are no records no assistant makes any. -/
theorem askValue_eq_alone (s : Session) (message : Value) :
    (∀ assistant reason, s.assistant = some assistant →
      (∀ m, message = .text m →
        assistant m s.dataset s.context s.history = .unavailable reason) →
      (s.askValue message).map (fun told => (told.1.silent, told.2.setAssistant none)) =
          (s.setAssistant none).askValue message ∧
        ∀ r next, s.askValue message = .ok (.answered r, next) →
          r.notice = if s.dataset.isEmpty then none else some (fallbackNotice reason)) ∧
    (s.dataset.isEmpty = true →
      (s.askValue message).map (fun told => (told.1, told.2.setAssistant none)) =
        (s.setAssistant none).askValue message) := by
  by_cases htext : ∃ m, message = .text m
  · obtain ⟨m, rfl⟩ := htext
    refine ⟨fun assistant reason hs hfails => ?_, fun hempty => ?_⟩
    · have hask : ∀ other, s.asked? = some other →
          other m s.dataset s.context s.history = .unavailable reason := by
        intro other hother
        have hset : s.assistant = some other := (Option.ite_none_left_eq_some.mp hother).2
        obtain rfl := Option.some.inj (hs.symm.trans hset)
        exact hfails m rfl
      refine ⟨congrArg Except.ok (ask_of_unavailable hask), fun r next hr => ?_⟩
      rw [notice_of_unavailable hask (congrArg Prod.fst (Except.ok.inj hr)), asked?, hs]
      split <;> rfl
    · have hnone : s.asked? = none := if_pos hempty
      -- Nobody is asked, so all who are asked may be taken to be unavailable.
      have hask : ∀ other, s.asked? = some other →
          other m s.dataset s.context s.history = .unavailable "" :=
        fun other hother => nomatch hnone.symm.trans hother
      have hsilent : (s.ask m).1.silent = (s.ask m).1 := by
        cases hturn : (s.ask m).1 with
        | failed reason => rfl
        | answered r =>
          have hnotice : r.notice = none := by
            rw [notice_of_unavailable hask hturn, hnone]
            rfl
          rw [Turn.silent, ← hnotice]
      have hsame := ask_of_unavailable hask
      rw [hsilent] at hsame
      exact congrArg Except.ok hsame
  · have hother : ∀ m, message ≠ .text m := fun m hm => htext ⟨m, hm⟩
    rw [askValue_of_not_text s hother, askValue_of_not_text _ hother]
    by_cases hholds : message.holdsSomething = true
    · rw [if_pos hholds, if_pos hholds]
      exact ⟨fun _ _ _ _ => ⟨rfl, fun r next hr => nomatch hr⟩, fun _ => rfl⟩
    · rw [if_neg hholds, if_neg hholds]
      refine ⟨fun _ _ _ _ => ⟨rfl, fun r next hr => ?_⟩, fun _ => rfl⟩
      exact nomatch (Prod.mk.inj (Except.ok.inj hr)).1

theorem askValue_eq_alone_timeout :
    let s := alwaysGetting (.unavailable "timed out")
    let empty : Session := { alwaysGetting (.broken "'down'") with
      dataset := ⟨[], [], {}, ⟨0, 0, 0, 0, 0⟩⟩ }
    (s.assistant = some (fun _ _ _ _ => .unavailable "timed out") ∧
      (s.askValue (.text "help")).map (fun told => (told.1.silent, told.2.setAssistant none)) =
        (s.setAssistant none).askValue (.text "help")) ∧
    empty.dataset.isEmpty = true ∧
      (empty.askValue (.text "help")).map (fun told => (told.1, told.2.setAssistant none)) =
        (empty.setAssistant none).askValue (.text "help") := by
  intro s empty
  have hs : s.assistant = some fun _ _ _ _ => .unavailable "timed out" := rfl
  have hempty : empty.dataset.isEmpty = true := rfl
  have hsame := (askValue_eq_alone s (.text "help")).1 _ "timed out" hs fun _ _ => rfl
  exact ⟨⟨hs, hsame.1⟩, hempty, (askValue_eq_alone empty (.text "help")).2 hempty⟩

end Session

end SalesDesk
