import SalesDesk.Proofs.Answer.Formed

/-! An answer without data leaves the context of a conversation as it is. -/
namespace SalesDesk

open Result

variable {α : Type} [Figure α]

theorem quiet_resolve (query : String) (d : Dataset α) (context : Context) :
    GivesOnly (resolve query d context) fun found => found.2.Quiet := by
  apply givesOnly_resolve (P := fun _ result => result.Quiet) (fun _ => rfl) (fun _ => rfl)
  intro r _ stage
  constructor
  intro answer hanswer result hresult
  exact ((stage.formed_strategy r).of_ok answer hanswer result hresult).quiet

/-- An answer that there is no data, or one in words, leaves the context as it is. Every other one
either does so too or, if it names a dimension, replaces all parts of the context. -/
theorem nextContext_of_resolve {query : String} {d : Dataset α} {context : Context} {stage : Stage}
    {result : Result α} (h : resolve query d context = .ok (stage, result)) :
    (result.kind = .noData ∨ result.kind = .message →
      result.dimension = none ∧ result.nextContext context = context) ∧
    (result.dimension = none ∧ result.nextContext context = context ∨
      ∃ dimension, result.dimension = some dimension ∧
        ∀ old, result.nextContext old = ⟨some dimension.topic, some dimension, result.count⟩) := by
  have hquiet : result.Quiet := (quiet_resolve query d context).of_ok _ h
  constructor
  · intro hkind
    have hnone : result.dimension = none := by
      apply hquiet
      rcases hkind with hkind | hkind <;> rw [hkind] <;> rfl
    exact ⟨hnone, by rw [nextContext, hnone]⟩
  · cases hdimension : result.dimension with
    | none => exact .inl ⟨rfl, by rw [nextContext, hdimension]⟩
    | some dimension =>
      refine .inr ⟨dimension, rfl, fun old => ?_⟩
      rw [nextContext, hdimension]
      rfl

/-- Goods that came back, which are no sale. -/
def returned : List (Record Float) := [
  { customer := "Acme", item := "Steel", category := "Metal", region := "North", amount := 120.0,
    quantity := 2.0, masterId := .text "m1", date := ⟨2024, 4, 2⟩, isSale := false }]

def returnsLedger : Dataset Float where
  records := returned
  table := Dataset.tableOf returned
  vocabulary := Vocabulary.ofRecords returned
  metrics := .empty

/-- A count after an answer about sales, where there are none. -/
theorem nextContext_of_resolve_returned :
    Dataset.ofRecords returned (some .empty) = .ok returnsLedger ∧
      ∃ stage result,
        resolve "top 2" returnsLedger (.ofDimension .isSale (some 3)) = .ok (stage, result) ∧
          result.kind = .noData ∧ result.dimension = none ∧
          result.nextContext (.ofDimension .isSale (some 3)) = .ofDimension .isSale (some 3) := by
  have hseen : ((resolve "top 2" returnsLedger (.ofDimension .isSale (some 3))).toOption.any
      fun found => found.2.kind == .noData) = true := by decide +kernel
  obtain ⟨⟨stage, result⟩, hresolve, hkind⟩ := exists_of_toOption_any hseen
  have hnone : result.kind = .noData := eq_of_beq hkind
  have hnext := (nextContext_of_resolve hresolve).1 (.inl hnone)
  exact ⟨rfl, stage, result, hresolve, hnone, hnext⟩

end SalesDesk
