import Mathlib.Algebra.Order.Field.Basic
import Mathlib.Algebra.Order.Field.Rat
import Mathlib.Tactic.Tauto
import SalesDesk.Proofs.Figure.Exact
import SalesDesk.Proofs.Number.Percent

/-!
The sign of a growth. It is a change over what was there before, so that it tells the direction of
the change only where that was positive; where it was negative, a growth above zero is a fall.
-/
namespace SalesDesk.Figure

open Float.Model.UnpackedFloat (Sign)

section
variable {α : Type} [Figure α]

/-- From one figure to another that is farther from zero on the same side. -/
def Departs (x y : α) : Prop :=
  less zero x = true ∧ less x y = true ∨ less x zero = true ∧ less y x = true

def Returns (x y : α) : Prop :=
  less zero x = true ∧ less y x = true ∨ less x zero = true ∧ less x y = true

/-- A growth has the sign of the exact quotient. -/
class Signed (α : Type) [Figure α] : Prop where
  growth_pos {x y g : α} : growth? x y = some g → (less zero g = true ↔ Departs x y)
  growth_neg {x y g : α} : growth? x y = some g → (less g zero = true ↔ Returns x y)

/-- What a growth says of the figures that it is computed from. -/
theorem of_growth? {x y g : α} (h : growth? x y = some g) :
    isZero x = false ∧ isFinite x = true ∧ isFinite ((y - x) / x) = true ∧
      g = (y - x) / x * ofInt 100 := by
  obtain ⟨r, hr, rfl⟩ := Option.map_eq_some_iff.mp h
  unfold divide? at hr
  split at hr
  · cases hr
  · rename_i hdivides
    split at hr
    · rename_i hfinite
      cases hr
      simp only [Bool.or_eq_true, Bool.not_eq_true', not_or, Bool.not_eq_true,
        Bool.not_eq_false] at hdivides
      exact ⟨hdivides.1, hdivides.2, hfinite, rfl⟩
    · cases hr

end

theorem less_rat {x y : Rat} : less x y = true ↔ x < y := decide_eq_true_iff

theorem growth_rat {x y g : Rat} (h : growth? x y = some g) : g = (y - x) / x * 100 :=
  (of_growth? h).2.2.2

instance : Signed Rat where
  growth_pos {x y g} h := by
    simp only [Departs, less_rat, zero_eq]
    rw [growth_rat h, mul_pos_iff_of_pos_right (by decide), div_pos_iff, sub_pos, sub_neg]
    tauto
  growth_neg {x y g} h := by
    simp only [Returns, less_rat, zero_eq]
    rw [growth_rat h, mul_neg_iff, div_neg_iff, sub_pos, sub_neg]
    have hhundred : (0 : Rat) < 100 := by decide
    have hpositive : ¬(100 : Rat) < 0 := by decide
    tauto

theorem less_float {x y : Float} : less x y = true ↔ x < y := decide_eq_true_iff

theorem zero_less_float {x : Float} :
    less zero x = true ↔ Number.sign? x.toModel.unpack = some .positive :=
  less_float.trans Number.zero_lt_iff

theorem less_zero_float {x : Float} :
    less x zero = true ↔ Number.sign? x.toModel.unpack = some .negative :=
  less_float.trans Number.lt_zero_iff

@[simp] theorem sign_div_self (s : Sign) : s / s = .positive := by
  cases s <;> rfl

@[simp] theorem positive_div_negative : Sign.positive / Sign.negative = .negative := rfl

@[simp] theorem negative_div_positive : Sign.negative / Sign.positive = .negative := rfl

theorem departs_float {x y : Float} {s : Sign} (hs : Number.sign? x.toModel.unpack = some s) :
    Departs x y ↔ s = .positive ∧ x < y ∨ s = .negative ∧ y < x := by
  rw [Departs, zero_less_float, less_zero_float, less_float, less_float, hs]
  simp

theorem returns_float {x y : Float} {s : Sign} (hs : Number.sign? x.toModel.unpack = some s) :
    Returns x y ↔ s = .positive ∧ y < x ∨ s = .negative ∧ x < y := by
  rw [Returns, zero_less_float, less_zero_float, less_float, less_float, hs]
  simp

theorem sign?_of_growth? {x y g : Float} (h : growth? x y = some g) :
    ∃ s, Number.sign? x.toModel.unpack = some s ∧
      (x < y ∧ Number.sign? g.toModel.unpack = some (.positive / s) ∨
        y < x ∧ Number.sign? g.toModel.unpack = some (.negative / s) ∨
        ¬x < y ∧ ¬y < x ∧ Number.sign? g.toModel.unpack = none) := by
  obtain ⟨hzero, hx, hfinite, rfl⟩ := of_growth? h
  obtain ⟨s, m, e, hm, hu⟩ := Number.exists_unpack_finite hx hzero
  refine ⟨s, ?_, Number.sign?_growth hu hfinite⟩
  rw [hu]
  rfl

theorem signs_of_growth? {x y g : Float} (h : growth? x y = some g) :
    (Number.sign? g.toModel.unpack = some .positive ↔ Departs x y) ∧
      (Number.sign? g.toModel.unpack = some .negative ↔ Returns x y) := by
  obtain ⟨s, hs, hsigns⟩ := sign?_of_growth? h
  rw [departs_float hs, returns_float hs]
  rcases hsigns with ⟨hlt, hg⟩ | ⟨hgt, hg⟩ | ⟨hlt, hgt, hg⟩
  · have hgt := Number.lt_asymm hlt
    cases s <;> simp [hg, hlt, hgt]
  · have hlt := Number.lt_asymm hgt
    cases s <;> simp [hg, hlt, hgt]
  · simp [hg, hlt, hgt]

instance : Signed Float where
  growth_pos h := zero_less_float.trans (signs_of_growth? h).1
  growth_neg h := less_zero_float.trans (signs_of_growth? h).2

end SalesDesk.Figure
