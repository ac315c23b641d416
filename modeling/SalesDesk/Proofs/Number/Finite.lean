import SalesDesk.Number.Nearest
import Mathlib.Tactic.SplitIfs

/-! Which data stay finite as doubles: those whose exponent is not the one of ones. -/
namespace SalesDesk.Number

open Float.Model

def Fits : UnpackedFloat → Prop
  | .zero _ => True
  | .finite _ _ e _ => (e + 1075).toNat < 2047
  | _ => False

theorem fits_finite {s : UnpackedFloat.Sign} {m : Nat} {e : Int} {hm : 0 < m}
    (h : (e + 1075).toNat < 2047) : Fits (.finite s m e hm) := h

private theorem ne_all_ones {v : BitVec 11} (h : v.toNat < 2047) : v ≠ -1#11 := by
  rintro rfl
  exact absurd h (by decide)

theorem isFinite_of_fits {u : UnpackedFloat} (h : Fits u) : u.isFinite = true := by
  cases u with
  | infinity s => exact h.elim
  | notANumber => exact h.elim
  | zero s => rfl
  | finite s m e hm => rfl

theorem fits_unpack {b : BitVec 64}
    (h : (@UnpackedFloat.unpackExponent .binary64 b).toNat < 2047) :
    Fits (UnpackedFloat.unpack .binary64 b) := by
  have hbias : Format.binary64.exponentBias = 1023 := by decide
  have hmantissa : Format.binary64.mantissaBitsWithoutImplicit = 52 := rfl
  unfold UnpackedFloat.unpack
  rw [if_neg (ne_all_ones h)]
  by_cases hzero : @UnpackedFloat.unpackExponent .binary64 b = 0#_
  · rw [if_pos hzero]
    by_cases hfraction : @UnpackedFloat.unpackMantissa .binary64 b = 0#_
    · rw [dif_pos hfraction]
      trivial
    · rw [dif_neg hfraction]
      apply fits_finite
      rw [hzero]
      decide
  · rw [if_neg hzero]
    apply fits_finite
    rw [hbias, hmantissa]
    omega

theorem fits_of_isFinite {b : BitVec 64} (h : (UnpackedFloat.unpack .binary64 b).isFinite = true) :
    Fits (UnpackedFloat.unpack .binary64 b) := by
  apply fits_unpack
  have hne : @UnpackedFloat.unpackExponent .binary64 b ≠ -1#11 := by
    intro heq
    unfold UnpackedFloat.unpack at h
    rw [if_pos heq] at h
    split at h <;> cases h
  have hlt := (@UnpackedFloat.unpackExponent .binary64 b).isLt
  have hmax : (@UnpackedFloat.unpackExponent .binary64 b).toNat ≠ 2047 := fun heq =>
    hne (BitVec.eq_of_toNat_eq heq)
  change _ < 2048 at hlt
  omega

theorem exponent_pack {u : UnpackedFloat} (h : Fits u) :
    (@UnpackedFloat.unpackExponent .binary64
      (UnpackedFloat.pack .binary64 u)).toNat < 2047 := by
  cases u with
  | infinity s => exact h.elim
  | notANumber => exact h.elim
  | zero s =>
    change (@UnpackedFloat.unpackExponent .binary64
      (UnpackedFloat.packedZero .binary64 s)).toNat < 2047
    simp [UnpackedFloat.packedZero]
  | finite s m e hm =>
    have hbias : e + (Format.binary64.exponentBias : Int) + (52 : Nat) = e + 1075 := by
      rw [show Format.binary64.exponentBias = 1023 by decide]
      omega
    unfold Fits at h
    unfold UnpackedFloat.pack
    dsimp only
    simp only [hbias]
    rw [if_neg (by omega)]
    split
    · simp only [UnpackedFloat.unpackExponent_packComponents, BitVec.toNat_ofNat]
      omega
    · simp

theorem isFinite_pack {u : UnpackedFloat} (h : Fits u) :
    (Float.ofModel (Float.Model.pack u)).isFinite = true :=
  isFinite_of_fits (fits_unpack (exponent_pack h))

theorem isFinite_ofBits {b : UInt64} (h : b.toNat < 2047 * leadingBit) :
    (Float.ofBits b).isFinite = true := by
  unfold leadingBit at h
  refine isFinite_pack (fits_unpack ?_)
  have hexponent : (@UnpackedFloat.unpackExponent .binary64 b.toBitVec).toNat =
      b.toNat / 2 ^ 52 % 2 ^ 11 := by
    simp [UnpackedFloat.unpackExponent, Nat.shiftRight_eq_div_pow]
  rw [hexponent]
  omega

theorem isFinite_neg {x : Float} (h : x.isFinite = true) : (-x).isFinite = true := by
  apply isFinite_pack
  have hx : Fits x.toModel.unpack := fits_of_isFinite h
  change Fits x.toModel.unpack.neg
  cases hu : x.toModel.unpack with
  | infinity s => rw [hu] at hx; exact hx.elim
  | notANumber => rw [hu] at hx; exact hx.elim
  | zero s => trivial
  | finite s m e hm => rw [hu] at hx; exact hx

end SalesDesk.Number
