import SalesDesk.Proofs.Number.Order
import SalesDesk.Proofs.Number.Rounding

/-!
The signs of doubles and of their differences. A difference has the sign that the order of the
doubles says, and is not much smaller than what is taken off.
-/
namespace SalesDesk.Number

open Float.Model UnpackedFloat

def sign? : UnpackedFloat → Option Sign
  | .finite s _ _ _ | .infinity s => some s
  | .zero _ | .notANumber => none

theorem unpack_zero : (ofInt 0).toModel.unpack = .zero .positive := by
  with_unfolding_all rfl

theorem zero_lt_iff {z : Float} : ofInt 0 < z ↔ sign? z.toModel.unpack = some .positive := by
  rw [lt_iff_before, unpack_zero]
  delta place? sign?
  cases z.toModel.unpack with
  | notANumber => simp
  | zero s => simp [Before]
  | infinity s => cases s <;> simp [Before]
  | finite s => cases s <;> dsimp only <;> simp [Before]

theorem lt_zero_iff {z : Float} : z < ofInt 0 ↔ sign? z.toModel.unpack = some .negative := by
  rw [lt_iff_before, unpack_zero]
  delta place? sign?
  cases z.toModel.unpack with
  | notANumber => simp
  | zero s => simp [Before]
  | infinity s => cases s <;> simp [Before]
  | finite s => cases s <;> dsimp only <;> simp [Before]

/-- A datum that reaches anything survives packing, or becomes infinite. -/
theorem Reaches.unpack_pack {s : Sign} {place : Int} {u : UnpackedFloat} (h : Reaches s place u) :
    (Float.Model.pack u).unpack = .infinity s ∨ (Float.Model.pack u).unpack = u := by
  obtain ⟨hm, hform, -⟩ := h
  exact Number.unpack_pack hform

theorem Reaches.sign?_pack {s : Sign} {place : Int} {u : UnpackedFloat} (h : Reaches s place u) :
    sign? (Float.Model.pack u).unpack = some s := by
  rcases h.unpack_pack with hu | hu
  · rw [hu]
    rfl
  · rw [hu]
    obtain ⟨hm, -, -⟩ := h
    rfl

section
variable {s t : Sign} {m n : Nat} {e f : Int} {hm : 0 < m} {hn : 0 < n}

/-- Numbers at a common exponent are in the order of their places. -/
theorem shiftLeft_lt_iff (hx : Canonical m e) (hy : Canonical n f) (hm : 0 < m) (hn : 0 < n)
    {common : Int} (he : common ≤ e) (hf : common ≤ f) :
    m <<< (e - common).toNat < n <<< (f - common).toNat ↔ e < f ∨ e = f ∧ m < n := by
  -- The higher exponent outweighs all bits that a significand can have.
  have hhigher {m n : Nat} {e f : Int} (hx : Canonical m e) (hy : Canonical n f) (hm : 0 < m)
      (hn : 0 < n) (he : common ≤ e) (hlt : e < f) :
      m <<< (e - common).toNat < n <<< (f - common).toNat := by
    have hfull : n.log2 = 52 := hy.full.resolve_right (by have := hx.least; omega)
    have hbits := hx.bits
    have hlog := log2_shiftLeft hm (e - common).toNat
    have hlog' := log2_shiftLeft hn (f - common).toNat
    by_contra hge
    have := log2_mono (Nat.le_of_not_lt hge)
    omega
  rcases Int.lt_trichotomy e f with hlt | rfl | hgt
  · exact ⟨fun _ => .inl hlt, fun _ => hhigher hx hy hm hn he hlt⟩
  · rw [Nat.shiftLeft_eq, Nat.shiftLeft_eq, Nat.mul_lt_mul_right (Nat.two_pow_pos _)]
    omega
  · have hback := hhigher hy hx hn hm hf hgt
    omega

/-- The signed size of a number at an exponent that is not higher than its own. -/
def signedAt (common : Int) (s : Sign) (m : Nat) (e : Int) : Int :=
  s.apply (m <<< (e - common).toNat : Nat)

/-- Doubles are in the order of their signed sizes. -/
theorem lt_iff_signedAt {x y : Float} (hx : x.toModel.unpack = .finite s m e hm)
    (hy : y.toModel.unpack = .finite t n f hn) {common : Int} (he : common ≤ e)
    (hf : common ≤ f) : x < y ↔ signedAt common s m e < signedAt common t n f := by
  have hforward := shiftLeft_lt_iff (canonical_of_unpack hx) (canonical_of_unpack hy) hm hn he hf
  have hback := shiftLeft_lt_iff (canonical_of_unpack hy) (canonical_of_unpack hx) hn hm hf he
  have ha : 0 < m <<< (e - common).toNat := by simpa using hm
  have hb : 0 < n <<< (f - common).toNat := by simpa using hn
  rw [lt_iff_before, hx, hy]
  unfold signedAt
  generalize m <<< (e - common).toNat = a at *
  generalize n <<< (f - common).toNat = b at *
  delta place?
  cases s <;> cases t <;> dsimp only [Sign.apply] <;> simp [Before] <;> omega

theorem normalize_cases (d common : Int) (hcommon : -1074 ≤ common) :
    (0 < d ∧ Reaches .positive (d.natAbs.log2 + common)
        (UnpackedFloat.normalize .binary64 d common .positive)) ∨
      (d < 0 ∧ Reaches .negative (d.natAbs.log2 + common)
        (UnpackedFloat.normalize .binary64 d common .positive)) ∨
      (d = 0 ∧ UnpackedFloat.normalize .binary64 d common .positive = .zero .positive) := by
  unfold UnpackedFloat.normalize
  rcases Int.lt_trichotomy d 0 with hd | rfl | hd
  · refine .inr (.inl ⟨hd, ?_⟩)
    rw [Int.compare_eq_lt.mpr hd, show d.natAbs = (-d).toNat by omega]
    exact reaches_round .negative (by omega) (by omega)
  · exact .inr (.inr ⟨rfl, rfl⟩)
  · refine .inl ⟨hd, ?_⟩
    rw [Int.compare_eq_gt.mpr hd, show d.natAbs = d.toNat by omega]
    exact reaches_round .positive (by omega) (by omega)

theorem sub_finite (s t : Sign) (m n : Nat) (e f : Int) (hm : 0 < m) (hn : 0 < n) :
    UnpackedFloat.sub .binary64 (.finite t n f hn) (.finite s m e hm) =
      UnpackedFloat.normalize .binary64
        (signedAt (min f e) t n f - signedAt (min f e) s m e) (min f e) .positive := rfl

/-- A number is no larger than twice the difference to another one, or than twice the other one. -/
theorem log2_le_difference (s t : Sign) (a b : Nat) :
    a.log2 ≤ max (t.apply b - s.apply a).natAbs.log2 b.log2 + 1 := by
  have hle : a ≤ (t.apply b - s.apply a).natAbs + b := by
    cases s <;> cases t <;> simp only [Sign.apply] <;> omega
  exact Nat.le_trans (log2_mono hle) (log2_add_le _ b)

/-- A difference that is not zero is not much smaller than the number that is taken off: bits of
that number would vanish only below those of the other one. -/
theorem place_le_difference (hx : Canonical m e) (hy : Canonical n f) (hm : 0 < m) :
    (m.log2 : Int) + e - 53 ≤
      (signedAt (min f e) t n f - signedAt (min f e) s m e).natAbs.log2 + min f e := by
  have hlog := log2_shiftLeft hm (e - min f e).toNat
  have hdifference := log2_le_difference s t (m <<< (e - min f e).toNat) (n <<< (f - min f e).toNat)
  have hbits := hx.bits
  have hbits' := hy.bits
  change _ ≤ max (signedAt (min f e) t n f - signedAt (min f e) s m e).natAbs.log2 _ + 1
    at hdifference
  rcases Int.le_total e f with hle | hle
  · omega
  · have hzero : (f - min f e).toNat = 0 := by omega
    rw [hzero] at hdifference
    change _ ≤ max _ n.log2 + 1 at hdifference
    omega

end

/-- The difference of two finite doubles, the one taken off not being zero: its sign is that of
their order, and it is not much smaller than the one taken off. -/
theorem sub_cases {x y : Float} {s : Sign} {m : Nat} {e : Int} {hm : 0 < m}
    (hx : x.toModel.unpack = .finite s m e hm) (hy : y.isFinite = true) :
    (x < y ∧ Reaches .positive (m.log2 + e - 53)
        (UnpackedFloat.sub .binary64 y.toModel.unpack x.toModel.unpack)) ∨
      (y < x ∧ Reaches .negative (m.log2 + e - 53)
        (UnpackedFloat.sub .binary64 y.toModel.unpack x.toModel.unpack)) ∨
      (¬x < y ∧ ¬y < x ∧
        ∃ z, UnpackedFloat.sub .binary64 y.toModel.unpack x.toModel.unpack = .zero z) := by
  have hform := canonical_of_unpack hx
  change y.toModel.unpack.isFinite = true at hy
  cases hu : y.toModel.unpack with
  | notANumber | infinity =>
    rw [hu] at hy
    cases hy
  | zero z =>
    have hsub : UnpackedFloat.sub .binary64 (.zero z) (.finite s m e hm) =
        .finite (-s) m e hm := rfl
    have hlt : x < y ↔ s = .negative := by
      rw [lt_iff_before, hx, hu]
      delta place?
      cases s <;> dsimp only <;> simp [Before]
    have hgt : y < x ↔ s = .positive := by
      rw [lt_iff_before, hx, hu]
      delta place?
      cases s <;> dsimp only <;> simp [Before]
    rw [hx, hsub]
    cases s with
    | positive => exact .inr (.inl ⟨hgt.mpr rfl, .intro hm hform (by omega)⟩)
    | negative => exact .inl ⟨hlt.mpr rfl, .intro hm hform (by omega)⟩
  | finite t n f hn =>
    have hform' := canonical_of_unpack hu
    have hplace := place_le_difference (s := s) (t := t) hform hform' hm
    have hlt := lt_iff_signedAt hx hu (Int.min_le_right f e) (Int.min_le_left f e)
    have hgt := lt_iff_signedAt hu hx (Int.min_le_left f e) (Int.min_le_right f e)
    have hcommon : -1074 ≤ min f e := by
      have := hform.least
      have := hform'.least
      omega
    rw [hx, sub_finite, hlt, hgt]
    rcases normalize_cases
        (signedAt (min f e) t n f - signedAt (min f e) s m e) (min f e) hcommon with
      ⟨hd, hreaches⟩ | ⟨hd, hreaches⟩ | ⟨hd, hzero⟩
    · exact .inl ⟨by omega, hreaches.mono hplace⟩
    · exact .inr (.inl ⟨by omega, hreaches.mono hplace⟩)
    · exact .inr (.inr ⟨by omega, by omega, _, hzero⟩)

end SalesDesk.Number
