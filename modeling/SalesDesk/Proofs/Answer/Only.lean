import SalesDesk.Answer.Stages
import SalesDesk.Proofs.Outcome

/-! What all answers have in common, from what each strategy may answer. -/
namespace SalesDesk

variable {α : Type}

/-- If the computation succeeds, the answer that it may give is as said. -/
def AnswersOnly (P : Result α → Prop) (x : Except Fault (Option (Result α))) : Prop :=
  GivesOnly x fun answer => ∀ result, answer = some result → P result

section
variable {P : Result α → Prop}

theorem answersOnly_none : AnswersOnly P (.ok none) := givesOnly_ok nofun

theorem answersOnly_some {result : Result α} (h : P result) : AnswersOnly P (.ok (some result)) :=
  givesOnly_ok fun _ heq => Option.some.inj heq ▸ h

theorem answersOnly_error (f : Fault) : AnswersOnly P (.error f) := givesOnly_error f

theorem answersOnly_ite {c : Prop} [Decidable c] {x y : Except Fault (Option (Result α))}
    (hx : AnswersOnly P x) (hy : AnswersOnly P y) : AnswersOnly P (if c then x else y) :=
  givesOnly_ite (fun _ => hx) fun _ => hy

theorem answersOnly_bind {β : Type} {x : Except Fault β}
    {f : β → Except Fault (Option (Result α))} (hf : ∀ b, AnswersOnly P (f b)) :
    AnswersOnly P (x >>= f) := givesOnly_bind hf

theorem GivesOnly.answered {Q : Result α → Prop} {x : Except Fault (Result α)}
    {f : Result α → Result α} (h : GivesOnly x Q) (hf : ∀ result, Q result → P (f result)) :
    AnswersOnly P (x >>= fun result => pure (some (f result))) :=
  h.bind fun result hresult => answersOnly_some (hf result hresult)

theorem GivesOnly.told {x : Except Fault (Result α)} (h : GivesOnly x P) :
    AnswersOnly P (x >>= fun result => pure (some result)) :=
  h.answered (f := id) fun _ hresult => hresult

end

variable [Figure α] {P : Stage → Result α → Prop}

theorem Stage.givesOnly_resolveAmong {r : Request α} {stages : List Stage}
    (h : ∀ stage ∈ stages, AnswersOnly (P stage) (stage.strategy r))
    (hfallback : P .fallback Answer.fallback) :
    GivesOnly (resolveAmong r stages) fun found => P found.1 found.2 := by
  induction stages with
  | nil => exact givesOnly_ok hfallback
  | cons stage rest ih =>
    obtain ⟨hstage, hrest⟩ := List.forall_mem_cons.mp h
    apply hstage.bind
    intro answer hanswer
    cases answer with
    | none => exact ih hrest
    | some result => exact givesOnly_ok (hanswer result rfl)

/-- What holds of the answers of each stage and of the two that need no reading of the question
holds of every answer. -/
theorem givesOnly_resolve {query : String} {d : Dataset α} {context : Context}
    (hnoData : P .noData (.noData noDataMessage ""))
    (hempty : P .empty (.words emptyQueryMessage "message"))
    (hstage : ∀ r, Request.make query d context = .ok r →
      ∀ stage, AnswersOnly (P stage) (stage.strategy r)) :
    GivesOnly (resolve query d context) fun found => P found.1 found.2 := by
  unfold resolve
  refine givesOnly_ite (fun _ => givesOnly_ok hnoData) fun _ =>
    givesOnly_ite (fun _ => givesOnly_ok hempty) fun _ => ?_
  have hmake : GivesOnly (Request.make query d context)
      fun r => Request.make query d context = .ok r := ⟨fun _ hr => hr⟩
  apply hmake.bind
  intro r hr
  have hstages := hstage r hr
  have hfallback := (hstages .fallback).of_ok _ rfl _ rfl
  exact Stage.givesOnly_resolveAmong (fun stage _ => hstages stage) hfallback

/-- The stage that answers a question is the one whose strategy does so. -/
theorem strategy_of_resolve {query : String} {d : Dataset α} {context : Context} {r : Request α}
    (hr : Request.make query d context = .ok r) :
    GivesOnly (resolve query d context) fun found =>
      found.1 = .noData ∨ found.1 = .empty ∨ found.1.strategy r = .ok (some found.2) := by
  apply givesOnly_resolve (P := fun stage result =>
    stage = .noData ∨ stage = .empty ∨ stage.strategy r = .ok (some result))
  · exact .inl rfl
  · exact .inr (.inl rfl)
  · intro r' hr' stage
    obtain rfl : r' = r := Except.ok.inj (hr'.symm.trans hr)
    constructor
    rintro answer hanswer result rfl
    exact .inr (.inr hanswer)

theorem isEmpty_of_resolve {query : String} {d : Dataset α} {context : Context} {stage : Stage}
    {result : Result α} (h : resolve query d context = .ok (stage, result))
    (hstage : stage ≠ .noData) : d.isEmpty = false := by
  cases hempty : d.isEmpty with
  | false => rfl
  | true =>
    rw [resolve, hempty] at h
    cases h
    exact absurd rfl hstage

end SalesDesk
