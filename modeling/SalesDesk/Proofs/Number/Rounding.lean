import SalesDesk.Proofs.Number.Bits
import SalesDesk.Proofs.Number.Canonical

/-!
How doubles round. A number that is at least the least double in size never rounds to zero: what
comes of it has its sign, is no smaller in bits, and has the form in which doubles hold numbers.
-/
namespace SalesDesk.Number

open Float.Model UnpackedFloat

theorem mantissa_shiftRight (em : ExtendedMantissa) (k : Nat) :
    (em >>> k).mantissa = em.mantissa >>> k := by
  induction k generalizing em with
  | zero => rfl
  | succ k ih =>
    change (em >>> k).mantissa / 2 = _
    rw [ih, Nat.shiftRight_succ]

theorem mantissa_ofMantissaAndAccuracy (m : Nat) (acc : Accuracy) :
    (ExtendedMantissa.ofMantissaAndAccuracy m acc).mantissa = m := by
  cases acc with
  | exact => rfl
  | inexact o => cases o <;> rfl

theorem roundedMantissa_bounds (em : ExtendedMantissa) :
    em.mantissa ≤ em.roundedMantissa ∧ em.roundedMantissa ≤ em.mantissa + 1 := by
  unfold ExtendedMantissa.roundedMantissa Accuracy.roundToNearestEven
  split <;> omega

/-- The bits that a significand loses when a double is made of it. -/
def excess (m : Nat) (e : Int) : Nat := (max ((m.log2 : Int) + e - 52) (-1074) - e).toNat

theorem shiftToTargetExponent_eq (m : Nat) (e : Int) (acc : Accuracy) :
    shiftToTargetExponent .binary64 m e acc =
      (ExtendedMantissa.ofMantissaAndAccuracy m acc >>> excess m e, e + excess m e) := by
  rw [shiftToTargetExponent, targetExponent_eq]
  rfl

/-- The datum is a number of the sign, in the form of doubles, with bits up to a place at least. -/
inductive Reaches (s : Sign) (place : Int) : UnpackedFloat → Prop
  | intro {m : Nat} {e : Int} (hm : 0 < m) (hform : Canonical m e)
    (hplace : place ≤ (m.log2 : Int) + e) : Reaches s place (.finite s m e hm)

theorem Reaches.mono {s : Sign} {place place' : Int} {u : UnpackedFloat} (h : Reaches s place u)
    (hle : place' ≤ place) : Reaches s place' u := by
  obtain ⟨hm, hform, hplace⟩ := h
  exact .intro hm hform (Int.le_trans hle hplace)

/-- A significand is cut, rounded to one of its neighbours, and cut once more. -/
theorem exists_rounded (s : Sign) (m : Nat) (e : Int) (acc : Accuracy) :
    ∃ r, m >>> excess m e ≤ r ∧ r ≤ m >>> excess m e + 1 ∧
      ∀ hr : 0 < r >>> excess r (e + excess m e),
        roundWithAccuracy .binary64 s m e acc =
          .finite s (r >>> excess r (e + excess m e))
            (e + excess m e + excess r (e + excess m e)) hr := by
  have hcut : (ExtendedMantissa.ofMantissaAndAccuracy m acc >>> excess m e).mantissa =
      m >>> excess m e := by
    rw [mantissa_shiftRight, mantissa_ofMantissaAndAccuracy]
  obtain ⟨hle, hge⟩ := roundedMantissa_bounds
    (ExtendedMantissa.ofMantissaAndAccuracy m acc >>> excess m e)
  rw [hcut] at hle hge
  refine ⟨_, hle, hge, fun hr => ?_⟩
  have hmantissa (r k : Nat) : (ExtendedMantissa.ofMantissaAndAccuracy r .exact >>> k).mantissa =
      r >>> k := by
    rw [mantissa_shiftRight, mantissa_ofMantissaAndAccuracy]
  unfold roundWithAccuracy
  rw [shiftToTargetExponent_eq]
  dsimp only
  rw [shiftToTargetExponent_eq]
  dsimp only
  rw [dif_neg (by rw [hmantissa]; exact Nat.ne_of_gt hr)]
  exact finite_congr rfl (hmantissa _ _) rfl

/-- What a number that is not too small keeps of its bits has the form of doubles. -/
theorem canonical_cut {m : Nat} {e : Int} (hsize : -1074 ≤ (m.log2 : Int) + e)
    (hbits : 52 ≤ m.log2 ∨ e ≤ -1074) :
    excess m e ≤ m.log2 ∧ m.log2 - excess m e ≤ 52 ∧ -1074 ≤ e + excess m e ∧
      (m.log2 - excess m e = 52 ∨ e + excess m e = -1074) := by
  unfold excess
  omega

theorem reaches_roundWithAccuracy (s : Sign) {m : Nat} (hm : 0 < m) {e : Int}
    (hsize : -1074 ≤ (m.log2 : Int) + e) (hbits : 52 ≤ m.log2 ∨ e ≤ -1074) (acc : Accuracy) :
    Reaches s (m.log2 + e) (roundWithAccuracy .binary64 s m e acc) := by
  obtain ⟨hcut, hbits, hleast, hfull⟩ := canonical_cut hsize hbits
  obtain ⟨r, hle, hge, hrounded⟩ := exists_rounded s m e acc
  generalize excess m e = k at *
  have hpos : 0 < r := Nat.lt_of_lt_of_le (shiftRight_pos hm hcut) hle
  have hlog : m.log2 - k ≤ r.log2 := by
    rw [← log2_shiftRight]
    exact log2_mono hle
  have hlog' : r.log2 ≤ m.log2 - k + 1 := by
    rw [← log2_shiftRight]
    exact Nat.le_trans (log2_mono hge) (log2_succ_le _)
  -- Only a power of two has the bit more.
  have hmore : excess r (e + k) = r.log2 - 52 := by
    unfold excess
    omega
  rw [hmore] at hrounded
  have hlast : (r >>> (r.log2 - 52)).log2 = r.log2 - (r.log2 - 52) := log2_shiftRight r _
  rw [hrounded (shiftRight_pos hpos (Nat.sub_le _ _))]
  refine .intro _ ⟨by omega, by omega, ?_⟩ (by omega)
  omega

theorem reaches_round (s : Sign) {m : Nat} (hm : 0 < m) {e : Int}
    (hsize : -1074 ≤ (m.log2 : Int) + e) :
    Reaches s (m.log2 + e) (UnpackedFloat.round .binary64 s m e) := by
  unfold UnpackedFloat.round decreaseExponent
  simp only [targetExponent_eq]
  generalize hk : (e - max ((m.log2 : Int) + e - 52) (-1074)).toNat = k
  have hlog : (m <<< k).log2 = m.log2 + k := log2_shiftLeft hm k
  have hshifted : 0 < m <<< k := by simpa using hm
  have hreaches := reaches_roundWithAccuracy s hshifted (e := e - k) (by omega) (by omega) .exact
  rwa [show ((m <<< k).log2 : Int) + (e - k) = m.log2 + e by omega] at hreaches

end SalesDesk.Number
