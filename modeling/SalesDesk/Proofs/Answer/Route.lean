import SalesDesk.Answer.Structured
import SalesDesk.Proofs.Outcome

/-! Which of the answers by intent a question gets. -/
namespace SalesDesk.Answer

variable {α : Type}

inductive Route
  | customer | product | ranking | comparison | period | clarification | overall
  /-- None of them. -/
  | pass
deriving DecidableEq

namespace Route

def strategy [Figure α] : Route → Strategy α
  | customer => Answer.customer
  | product => Answer.product
  | ranking => byRank
  | comparison => byComparison
  | period => byPeriod
  | clarification => Answer.clarification
  | overall => Answer.overall
  | pass => fun _ => .ok none

/-- The columns whose names narrow an answer. A named customer goes before a named product, and
neither of them narrows an answer about the ledger at large. -/
def columns : Route → List Column
  | customer => [.customer, .category, .region]
  | product => [.item, .category, .region]
  | ranking | comparison | period | clarification => [.category, .region]
  | overall | pass => []

end Route

def intentRoute (r : Request α) : Route :=
  match r.reading.intent with
  | .ranking => .ranking
  | .comparison => if 2 ≤ r.mentions.periods.length then .comparison else .pass
  | .temporalAnalysis => if r.mentions.periods.length == 1 then .period else .pass
  | .clarification => .clarification
  | .information => if r.asks ["revenue", "sales"] then .overall else .pass
  | .calculation | .general => .pass

/-- Does a question that names a customer ask about that customer? -/
def asksOfCustomer (r : Request α) : Bool :=
  r.reading.modifiers.monthWise || r.reading.intent == .information ||
    r.reading.intent == .calculation

/-- The route of a question. -/
def route (r : Request α) : Route :=
  if Query.isGiven r.mentions.names.customer && asksOfCustomer r then .customer
  else if Query.isGiven r.mentions.names.item then .product
  else intentRoute r

section
variable {test : Request α → Bool} {s : Strategy α} {r : Request α}

theorem firstAnswer_of_fails (h : test r = false) (rest : List (Strategy α)) :
    firstAnswer (onlyIf test s :: rest) r = firstAnswer rest r := by
  simp [firstAnswer, onlyIf, h]

theorem firstAnswer_of_passes (h : test r = true) (hs : s r ≠ .ok none)
    (rest : List (Strategy α)) : firstAnswer (onlyIf test s :: rest) r = s r := by
  simp only [firstAnswer, onlyIf, h, if_true]
  match hsr : s r with
  | .ok none => exact absurd hsr hs
  | .ok (some a) => rfl
  | .error f => rfl

/-- Where only one strategy of a list applies, its answer is that of the list. -/
theorem firstAnswer_of_alone (h : test r = true) {rest : List (Strategy α)}
    (hrest : firstAnswer rest r = .ok none) : firstAnswer (onlyIf test s :: rest) r = s r := by
  by_cases hs : s r = .ok none
  · simp [firstAnswer, onlyIf, h, hs, hrest]
  · exact firstAnswer_of_passes h hs rest

end

variable [Figure α]

theorem customer_of_not_asked {r : Request α} (h : asksOfCustomer r = false) :
    customer r = .ok none := by
  simp only [asksOfCustomer, Bool.or_eq_false_iff] at h
  simp [customer, h.1.1, h.1.2, h.2]

def byIntent : List (Strategy α) := [
  onlyIf (fun r => r.reading.intent == .ranking) byRank,
  onlyIf (fun r => r.reading.intent == .comparison && 2 ≤ r.mentions.periods.length) byComparison,
  onlyIf (fun r => r.reading.intent == .temporalAnalysis && r.mentions.periods.length == 1)
    byPeriod,
  onlyIf (fun r => r.reading.intent == .clarification) clarification,
  onlyIf (fun r => r.reading.intent == .information && r.asks ["revenue", "sales"]) overall]

theorem firstAnswer_byIntent (r : Request α) :
    firstAnswer byIntent r = (intentRoute r).strategy r := by
  cases hi : r.reading.intent with
  | ranking =>
    rw [byIntent, firstAnswer_of_alone (by simp [hi]) (by simp [firstAnswer, onlyIf, hi])]
    simp [intentRoute, hi, Route.strategy]
  | comparison =>
    rw [byIntent, firstAnswer_of_fails (by simp [hi])]
    by_cases hp : 2 ≤ r.mentions.periods.length
    · rw [firstAnswer_of_alone (by simp [hi, hp]) (by simp [firstAnswer, onlyIf, hi])]
      simp [intentRoute, hi, hp, Route.strategy]
    · simp [firstAnswer, onlyIf, intentRoute, hi, hp, Route.strategy]
  | temporalAnalysis =>
    rw [byIntent, firstAnswer_of_fails (by simp [hi]), firstAnswer_of_fails (by simp [hi])]
    by_cases hp : r.mentions.periods.length = 1
    · rw [firstAnswer_of_alone (by simp [hi, hp]) (by simp [firstAnswer, onlyIf, hi])]
      simp [intentRoute, hi, hp, Route.strategy]
    · simp [firstAnswer, onlyIf, intentRoute, hi, hp, Route.strategy]
  | clarification =>
    rw [byIntent, firstAnswer_of_fails (by simp [hi]), firstAnswer_of_fails (by simp [hi]),
      firstAnswer_of_fails (by simp [hi]),
      firstAnswer_of_alone (by simp [hi]) (by simp [firstAnswer, onlyIf, hi])]
    simp [intentRoute, hi, Route.strategy]
  | information =>
    rw [byIntent, firstAnswer_of_fails (by simp [hi]), firstAnswer_of_fails (by simp [hi]),
      firstAnswer_of_fails (by simp [hi]), firstAnswer_of_fails (by simp [hi])]
    by_cases hp : r.asks ["revenue", "sales"] = true
    · rw [firstAnswer_of_alone (by simp [hi, hp]) rfl]
      simp [intentRoute, hi, hp, Route.strategy]
    · simp [firstAnswer, onlyIf, intentRoute, hi, hp, Route.strategy]
  | calculation | general =>
    simp [byIntent, firstAnswer, onlyIf, intentRoute, hi, Route.strategy]

theorem customer_ne_none {r : Request α} (h : asksOfCustomer r = true) : customer r ≠ .ok none := by
  unfold customer
  by_cases hm : r.reading.modifiers.monthWise = true
  · simp only [hm, if_true]
    apply bind_ne_none
    intro found
    cases found with
    | missing answer => exact nofun
    | found scope => exact bind_ne_none fun _ => nofun
  · have hintent :
        (r.reading.intent == .information || r.reading.intent == .calculation) = true := by
      simpa [asksOfCustomer, hm] using h
    simp only [hm, hintent, if_true]
    apply bind_ne_none
    intro found
    cases found with
    | missing answer => exact nofun
    | found scope => exact bind_ne_none fun _ => nofun

theorem product_ne_none (r : Request α) : product r ≠ .ok none := by
  unfold product
  apply bind_ne_none
  intro found
  cases found with
  | missing answer => exact nofun
  | found scope =>
    by_cases hc : r.asks ["customer"] = true
    · simp only [hc, if_true]
      exact bind_ne_none fun _ => nofun
    · simp only [hc]
      exact bind_ne_none fun _ => nofun

/-- The answer by intent is that of one route. -/
theorem structured_eq_route (r : Request α) : structured r = (route r).strategy r := by
  have hrest :
      firstAnswer (onlyIf (fun r => Query.isGiven r.mentions.names.item) product :: byIntent) r =
        (if Query.isGiven r.mentions.names.item then Route.product
          else intentRoute r).strategy r := by
    by_cases hi : Query.isGiven r.mentions.names.item = true
    · rw [firstAnswer_of_passes hi (product_ne_none r), if_pos hi]
      rfl
    · rw [firstAnswer_of_fails (by simpa using hi), firstAnswer_byIntent, if_neg hi]
  change firstAnswer (onlyIf _ customer :: onlyIf _ product :: byIntent) r = _
  by_cases hc : Query.isGiven r.mentions.names.customer = true
  · cases ha : asksOfCustomer r with
    | true =>
      rw [firstAnswer_of_passes hc (customer_ne_none ha), route, hc, ha]
      rfl
    | false =>
      have hnone : onlyIf (fun r => Query.isGiven r.mentions.names.customer) customer r =
          .ok none := by simp [onlyIf, hc, customer_of_not_asked ha]
      rw [firstAnswer, hnone, ok_bind, hrest, route, hc, ha]
      rfl
  · rw [firstAnswer_of_fails (by simpa using hc), hrest, route]
    simp [hc]

end SalesDesk.Answer
