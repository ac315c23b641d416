import SalesDesk.Proofs.Value.Same

/-!
The order of doubles. All of them but what is no number have places in one row, from minus infinity
over the exponents and significands up to infinity, and one is less than another if its place comes
before.
-/
namespace SalesDesk.Number

open Float.Model

/-- The place of a datum among all of them: its kind, and for a finite one that is not zero its
exponent and its significand. -/
def place? : UnpackedFloat → Option (Int × Int × Int)
  | .notANumber => none
  | .infinity .negative => some (-2, 0, 0)
  | .finite .negative m e _ => some (-1, -e, -m)
  | .zero _ => some (0, 0, 0)
  | .finite .positive m e _ => some (1, e, m)
  | .infinity .positive => some (2, 0, 0)

/-- Places by their first part, then by the second and then by the third one. -/
def Before (p q : Int × Int × Int) : Prop :=
  p.1 < q.1 ∨ p.1 = q.1 ∧ (p.2.1 < q.2.1 ∨ p.2.1 = q.2.1 ∧ p.2.2 < q.2.2)

theorem Before.asymm {p q : Int × Int × Int} (h : Before p q) : ¬Before q p := by
  unfold Before at h ⊢
  omega

theorem not_before_trans {p q r : Int × Int × Int} (h : ¬Before p q) (h' : ¬Before q r) :
    ¬Before p r := by
  unfold Before at h h' ⊢
  omega

theorem places_compare_eq_lt_iff (m n : Nat) (e f : Int) :
    (compare e f).then (compare m n) = .lt ↔ e < f ∨ e = f ∧ m < n := by
  rw [Ordering.then_eq_lt, Int.compare_eq_lt, Int.compare_eq_eq, Nat.compare_eq_lt]

theorem places_compare_eq_gt_iff (m n : Nat) (e f : Int) :
    (compare e f).then (compare m n) = .gt ↔ f < e ∨ e = f ∧ n < m := by
  rw [Ordering.then_eq_gt, Int.compare_eq_gt, Int.compare_eq_eq, Nat.compare_eq_gt]

theorem compare_eq_lt_iff (u v : UnpackedFloat) :
    u.compare v = some .lt ↔ ∃ p q, place? u = some p ∧ place? v = some q ∧ Before p q := by
  delta UnpackedFloat.compare place?
  cases u with
  | notANumber => simp
  | infinity s =>
    cases v with
    | notANumber => cases s <;> simp
    | infinity t => cases s <;> cases t <;> simp [Before, compare]
    | zero t => cases s <;> simp [Before]
    | finite t => cases s <;> cases t <;> dsimp only <;> simp [Before]
  | zero s =>
    cases v with
    | notANumber => simp
    | infinity t => cases t <;> simp [Before]
    | zero t => simp [Before]
    | finite t => cases t <;> dsimp only <;> simp [Before]
  | finite s m e hm =>
    cases v with
    | notANumber => cases s <;> dsimp only <;> simp
    | infinity t => cases s <;> cases t <;> dsimp only <;> simp [Before]
    | zero t => cases s <;> dsimp only <;> simp [Before]
    | finite t n f hn =>
      cases s <;> cases t <;> dsimp only <;>
        simp [Before, places_compare_eq_lt_iff, places_compare_eq_gt_iff]

section
variable {x y z : Float}

theorem lt_iff_compare : x < y ↔ x.toModel.unpack.compare y.toModel.unpack = some .lt := by
  change decide (x.toModel < y.toModel) = true ↔ _
  rw [decide_eq_true_iff]
  change (x.toModel.unpack.compare y.toModel.unpack == some .lt) = true ↔ _
  rw [beq_iff_eq]

theorem lt_iff_before : x < y ↔
    ∃ p q, place? x.toModel.unpack = some p ∧ place? y.toModel.unpack = some q ∧ Before p q :=
  lt_iff_compare.trans (compare_eq_lt_iff _ _)

theorem lt_asymm (h : x < y) : ¬y < x := by
  rw [lt_iff_before] at h ⊢
  rintro ⟨q, p, hq, hp, hqp⟩
  obtain ⟨p', q', hp', hq', hpq⟩ := h
  rw [hp] at hp'
  rw [hq] at hq'
  cases hp'
  cases hq'
  exact hpq.asymm hqp

/-- Whatever is a number has a place. -/
theorem exists_place (h : x.isNaN = false) : ∃ p, place? x.toModel.unpack = some p := by
  change x.toModel.unpack.isNaN = false at h
  cases hu : x.toModel.unpack with
  | notANumber =>
    rw [hu] at h
    cases h
  | infinity s | finite s => cases s <;> exact ⟨_, rfl⟩
  | zero s => exact ⟨_, rfl⟩

theorem not_lt_trans (hy : y.isNaN = false) (h : ¬x < y) (h' : ¬y < z) : ¬x < z := by
  obtain ⟨q, hq⟩ := exists_place hy
  rw [lt_iff_before] at h h' ⊢
  rintro ⟨p, r, hp, hr, hpr⟩
  refine not_before_trans (fun hpq => h ⟨p, q, hp, hq, hpq⟩) (fun hqr => h' ⟨q, r, hq, hr, hqr⟩) hpr

end

end SalesDesk.Number
