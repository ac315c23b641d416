import SalesDesk.Figure
import SalesDesk.Proofs.Number.Order

/-! The order of figures. Falling order is total, both on doubles and on rationals. -/
namespace SalesDesk.Figure

/-- Numbers are in one order; what is no number is in none. -/
class Ordered (α : Type) [Figure α] : Prop where
  asymm (x y : α) : less x y = true → less y x = false
  not_less_trans (x y z : α) :
    isMissing y = false → less x y = false → less y z = false → less x z = false

instance : Ordered Float where
  asymm _ _ h := decide_eq_false (Number.lt_asymm (of_decide_eq_true h))
  not_less_trans _ _ _ hy h h' :=
    decide_eq_false (Number.not_lt_trans hy (of_decide_eq_false h) (of_decide_eq_false h'))

instance : Ordered Rat where
  asymm _ _ h := decide_eq_false (Rat.not_lt.mpr (Rat.le_of_lt (of_decide_eq_true h)))
  not_less_trans x y z _ h h' := by
    have hyx : y ≤ x := Rat.not_lt.mp (of_decide_eq_false h)
    have hzy : z ≤ y := Rat.not_lt.mp (of_decide_eq_false h')
    exact decide_eq_false (Rat.not_lt.mpr (Rat.le_trans hzy hyx))

section
variable {α : Type} [Figure α]

theorem falls_of_missing {x : α} (h : isMissing x = true) (y : α) : falls x y = isMissing y := by
  rw [falls, if_pos h]

theorem falls_of_number {x : α} (h : isMissing x = false) (y : α) :
    falls x y = true ↔ isMissing y = true ∨ less x y = false := by
  rw [falls, h]
  simp

variable [Ordered α]

theorem falls_trans (x y z : α) (h : falls x y = true) (h' : falls y z = true) :
    falls x z = true := by
  cases hx : isMissing x with
  | true =>
    rw [falls_of_missing hx] at h ⊢
    rwa [falls_of_missing h] at h'
  | false =>
    rw [falls_of_number hx] at h ⊢
    cases hy : isMissing y with
    | true => exact .inl (falls_of_missing hy z ▸ h')
    | false =>
      rcases (falls_of_number hy z).mp h' with hz | hyz
      · exact .inl hz
      · have hxy := h.resolve_left (by simp [hy])
        exact .inr (Ordered.not_less_trans x y z hy hxy hyz)

theorem falls_total (x y : α) : (falls x y || falls y x) = true := by
  rw [Bool.or_eq_true]
  cases hx : isMissing x with
  | true =>
    cases hy : isMissing y with
    | true => exact .inl ((falls_of_missing hx y).trans hy)
    | false => exact .inr ((falls_of_number hy x).mpr (.inl hx))
  | false =>
    cases hless : less x y with
    | false => exact .inl ((falls_of_number hx y).mpr (.inr hless))
    | true =>
      cases hy : isMissing y with
      | true => exact .inl ((falls_of_number hx y).mpr (.inl hy))
      | false => exact .inr ((falls_of_number hy x).mpr (.inr (Ordered.asymm x y hless)))

end

end SalesDesk.Figure
