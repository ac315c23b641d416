import SalesDesk.Ledger.IdColumn
import SalesDesk.Ledger.Metrics
import SalesDesk.Proofs.Number.Finite

/-!
Values that are the same. Sameness is symmetric and transitive, also between integers and doubles,
and a value that can be counted as an id is the same as itself.
-/
namespace SalesDesk

namespace Number

open Float.Model

/-- What sameness sees of a double: nothing of what is no number, and no sign of a zero. -/
def seen : UnpackedFloat → Option UnpackedFloat
  | .notANumber => none
  | .zero _ => some (.zero .positive)
  | u => some u

theorem of_seen {u w : UnpackedFloat} (h : seen u = some w) :
    u = w ∨ ∃ s, u = .zero s ∧ w = .zero .positive := by
  cases u with
  | notANumber => cases h
  | zero s => exact .inr ⟨s, rfl, (Option.some.inj h).symm⟩
  | infinity s => exact .inl (Option.some.inj h)
  | finite s m e hm => exact .inl (Option.some.inj h)

theorem sign_compare_eq_iff (s t : UnpackedFloat.Sign) : compare s t = .eq ↔ s = t := by
  cases s <;> cases t <;> simp [compare]

theorem places_compare_eq_iff (m n : Nat) (e f : Int) :
    (compare e f).then (compare m n) = .eq ↔ e = f ∧ m = n := by
  rw [Ordering.then_eq_eq, Int.compare_eq_eq, Nat.compare_eq_eq]

theorem seen_of_compare {u v : UnpackedFloat} (h : u.compare v = some .eq) :
    ∃ w, seen u = some w ∧ seen v = some w := by
  cases u with
  | notANumber => cases h
  | infinity s =>
    cases v with
    | infinity t =>
      obtain rfl := (sign_compare_eq_iff s t).mp (Option.some.inj h)
      exact ⟨_, rfl, rfl⟩
    | _ => cases s <;> cases h
  | zero s =>
    cases v with
    | zero t => exact ⟨_, rfl, rfl⟩
    | infinity t | finite t => cases t <;> cases h
    | notANumber => cases h
  | finite s m e hm =>
    cases v with
    | finite t n f hn =>
      have hsame : s = t ∧ (compare e f).then (compare m n) = .eq := by
        cases s <;> cases t
        · exact ⟨rfl, Ordering.swap_eq_eq.mp (Option.some.inj h)⟩
        · cases h
        · cases h
        · exact ⟨rfl, Option.some.inj h⟩
      obtain ⟨rfl, hplaces⟩ := hsame
      obtain ⟨rfl, rfl⟩ := (places_compare_eq_iff m n e f).mp hplaces
      exact ⟨_, rfl, rfl⟩
    | infinity t => cases s <;> cases t <;> cases h
    | _ => cases s <;> cases h

theorem compare_self {u : UnpackedFloat} (h : seen u = some u) : u.compare u = some .eq := by
  cases u with
  | notANumber => cases h
  | infinity s => exact congrArg some ((sign_compare_eq_iff s s).mpr rfl)
  | zero s => rfl
  | finite s m e hm =>
    have hplaces := (places_compare_eq_iff m m e e).mpr ⟨rfl, rfl⟩
    cases s with
    | positive => exact congrArg some hplaces
    | negative => exact congrArg some (Ordering.swap_eq_eq.mpr hplaces)

theorem compare_eq_iff (u v : UnpackedFloat) :
    u.compare v = some .eq ↔ ∃ w, seen u = some w ∧ seen v = some w := by
  refine ⟨seen_of_compare, ?_⟩
  rintro ⟨w, hu, hv⟩
  rcases of_seen hu with rfl | ⟨s, rfl, rfl⟩
  · rcases of_seen hv with rfl | ⟨t, rfl, rfl⟩
    · exact compare_self hu
    · rfl
  · rcases of_seen hv with rfl | ⟨t, rfl, -⟩
    · rfl
    · rfl

theorem beq_iff {x y : Float} :
    (x == y) = true ↔ ∃ u, seen x.toModel.unpack = some u ∧ seen y.toModel.unpack = some u := by
  have hbeq : (x == y) = (x.toModel.unpack.compare y.toModel.unpack == some .eq) := rfl
  rw [hbeq, beq_iff_eq, compare_eq_iff]

theorem toNat_unpackExponent (b : BitVec 64) :
    (@UnpackedFloat.unpackExponent .binary64 b).toNat = b.toNat / leadingBit % 0x800 := by
  simp [UnpackedFloat.unpackExponent, Nat.shiftRight_eq_div_pow, leadingBit]

theorem toNat_unpackMantissa (b : BitVec 64) :
    (@UnpackedFloat.unpackMantissa .binary64 b).toNat = b.toNat % leadingBit := by
  simp [UnpackedFloat.unpackMantissa, leadingBit]

theorem toNat_unpackSign (b : BitVec 64) :
    (@UnpackedFloat.unpackSign .binary64 b).toNat = b.toNat / 0x8000000000000000 := by
  have hlt := b.isLt
  unfold UnpackedFloat.unpackSign
  simp [Nat.shiftRight_eq_div_pow]
  omega

theorem ofBitVec_eq_negative_iff (v : BitVec 1) :
    UnpackedFloat.Sign.ofBitVec v = .negative ↔ v.toNat = 1 := by
  have hlt := v.isLt
  have hzero : v = 0#1 ↔ v.toNat = 0 := by simp [← BitVec.toNat_inj]
  unfold UnpackedFloat.Sign.ofBitVec
  split
  · simp [hzero.mp ‹_›]
  · simp only [true_iff]
    rename_i hne
    have := mt hzero.mpr hne
    omega

theorem toNat_append_one (v : BitVec 52) : (1#1 ++ v).toNat = v.toNat + leadingBit := by
  have hlt := v.isLt
  rw [BitVec.toNat_append, ← Nat.shiftLeft_add_eq_or_of_lt hlt, Nat.shiftLeft_eq, leadingBit]
  simp
  omega

theorem magnitude_eq (x : Float) :
    magnitude x =
      if (@UnpackedFloat.unpackExponent .binary64 x.toModel.toBits.toBitVec).toNat = 0 then
        ⟨(@UnpackedFloat.unpackMantissa .binary64 x.toModel.toBits.toBitVec).toNat, -1074⟩
      else
        ⟨(@UnpackedFloat.unpackMantissa .binary64 x.toModel.toBits.toBitVec).toNat + leadingBit,
          (@UnpackedFloat.unpackExponent .binary64 x.toModel.toBits.toBitVec).toNat - 1075⟩ := by
  have hbits : x.toBits.toNat = x.toModel.toBits.toBitVec.toNat := rfl
  rw [toNat_unpackExponent, toNat_unpackMantissa, magnitude, hbits]
  rfl

theorem signed_iff (x : Float) :
    signed x = true ↔ UnpackedFloat.Sign.ofBitVec
      (@UnpackedFloat.unpackSign .binary64 x.toModel.toBits.toBitVec) = .negative := by
  have hbits : x.toBits.toNat = x.toModel.toBits.toBitVec.toNat := rfl
  rw [ofBitVec_eq_negative_iff, toNat_unpackSign, signed, hbits, beq_iff_eq]

/-- The datum of a double says its magnitude, and of what is not zero its sign. -/
def Tells (x : Float) : UnpackedFloat → Prop
  | .zero _ => magnitude x = ⟨0, -1074⟩
  | .finite s m e _ => magnitude x = ⟨m, e⟩ ∧ (signed x = true ↔ s = .negative)
  | _ => True

theorem tells_finite {x : Float} {s : UnpackedFloat.Sign} {m : Nat} {e : Int} {hm : 0 < m}
    (h : magnitude x = ⟨m, e⟩) (hs : signed x = true ↔ s = .negative) :
    Tells x (.finite s m e hm) := ⟨h, hs⟩

theorem tells_unpack (x : Float) : Tells x x.toModel.unpack := by
  have hbias : Format.binary64.exponentBias = 1023 := by decide
  have hmagnitude := magnitude_eq x
  have hsigned := signed_iff x
  unfold Float.Model.unpack UnpackedFloat.unpack
  generalize x.toModel.toBits.toBitVec = b at hmagnitude hsigned ⊢
  by_cases hones : @UnpackedFloat.unpackExponent .binary64 b = -1#_
  · rw [if_pos hones]
    by_cases hnone : @UnpackedFloat.unpackMantissa .binary64 b = 0#_
    · rw [if_pos hnone]
      trivial
    · rw [if_neg hnone]
      trivial
  rw [if_neg hones]
  by_cases hlow : @UnpackedFloat.unpackExponent .binary64 b = 0#_
  · rw [if_pos hlow]
    rw [hlow, if_pos (by simp)] at hmagnitude
    by_cases hnone : @UnpackedFloat.unpackMantissa .binary64 b = 0#_
    · rw [dif_pos hnone]
      rw [hnone] at hmagnitude
      exact hmagnitude
    · rw [dif_neg hnone]
      apply tells_finite _ hsigned
      rw [hmagnitude, hlow, hbias]
      rfl
  · rw [if_neg hlow]
    have hfield : (@UnpackedFloat.unpackExponent .binary64 b).toNat ≠ 0 := by
      simpa [← BitVec.toNat_inj] using hlow
    rw [if_neg hfield] at hmagnitude
    apply tells_finite _ hsigned
    rw [hmagnitude, hbias, toNat_append_one]
    rfl

theorem magnitude_of_unpack {x : Float} {s : UnpackedFloat.Sign} {m : Nat} {e : Int} {hm : 0 < m}
    (h : x.toModel.unpack = .finite s m e hm) :
    magnitude x = ⟨m, e⟩ ∧ (signed x = true ↔ s = .negative) := by
  have htells := tells_unpack x
  rw [h] at htells
  exact htells

theorem integerPart_of_unpack_zero {x : Float} {s : UnpackedFloat.Sign}
    (h : x.toModel.unpack = .zero s) : integerPart x = 0 := by
  have hmagnitude := tells_unpack x
  rw [h] at hmagnitude
  change magnitude x = ⟨0, -1074⟩ at hmagnitude
  have hnum : (Magnitude.quotient ⟨0, -1074⟩).1 = 0 := rfl
  simp [integerPart, hmagnitude, hnum]

section
variable {x y : Float}

theorem unpack_of_beq (h : (x == y) = true) : x.toModel.unpack = y.toModel.unpack ∨
    ∃ s t, x.toModel.unpack = .zero s ∧ y.toModel.unpack = .zero t := by
  obtain ⟨w, hx, hy⟩ := beq_iff.mp h
  rcases of_seen hx with rfl | ⟨s, hs, rfl⟩ <;> rcases of_seen hy with hv | ⟨t, ht, hw⟩
  · exact .inl hv.symm
  · exact .inr ⟨_, t, hw, ht⟩
  · exact .inr ⟨s, _, hs, hv⟩
  · exact .inr ⟨s, t, hs, ht⟩

theorem isFinite_eq_of_beq (h : (x == y) = true) : x.isFinite = y.isFinite := by
  change x.toModel.unpack.isFinite = y.toModel.unpack.isFinite
  rcases unpack_of_beq h with hxy | ⟨s, t, hs, ht⟩
  · rw [hxy]
  · rw [hs, ht]
    rfl

/-- Equal finite doubles have the same integer part, a zero of either sign included. -/
theorem integerPart_eq_of_beq (h : (x == y) = true) (hfinite : x.isFinite = true) :
    integerPart x = integerPart y := by
  change x.toModel.unpack.isFinite = true at hfinite
  rcases unpack_of_beq h with hxy | ⟨s, t, hs, ht⟩
  · cases hu : x.toModel.unpack with
    | notANumber | infinity s =>
      rw [hu] at hfinite
      cases hfinite
    | zero s => rw [integerPart_of_unpack_zero hu, integerPart_of_unpack_zero (hxy.symm.trans hu)]
    | finite s m e hm =>
      obtain ⟨hx, hsx⟩ := magnitude_of_unpack hu
      obtain ⟨hy, hsy⟩ := magnitude_of_unpack (hxy.symm.trans hu)
      have hsigned : signed x = signed y := Bool.eq_iff_iff.mpr (hsx.trans hsy.symm)
      rw [integerPart, integerPart, hx, hy, hsigned]
  · rw [integerPart_of_unpack_zero hs, integerPart_of_unpack_zero ht]

theorem beq_symm (h : (x == y) = true) : (y == x) = true := by
  obtain ⟨u, hx, hy⟩ := beq_iff.mp h
  exact beq_iff.mpr ⟨u, hy, hx⟩

theorem beq_trans {z : Float} (h : (x == y) = true) (h' : (y == z) = true) : (x == z) = true := by
  obtain ⟨u, hx, hy⟩ := beq_iff.mp h
  obtain ⟨v, hy', hz⟩ := beq_iff.mp h'
  obtain rfl : u = v := Option.some.inj (hy.symm.trans hy')
  exact beq_iff.mpr ⟨u, hx, hz⟩

/-- Whatever is a number is equal to itself. -/
theorem beq_self (h : x.isNaN = false) : (x == x) = true := by
  change x.toModel.unpack.isNaN = false at h
  have hseen : ∃ u, seen x.toModel.unpack = some u := by
    cases hu : x.toModel.unpack with
    | notANumber =>
      rw [hu] at h
      cases h
    | _ => exact ⟨_, rfl⟩
  obtain ⟨u, hu⟩ := hseen
  exact beq_iff.mpr ⟨u, hu, hu⟩

end

end Number

namespace Value

open Number

/-- What sameness sees of a value. Whatever is equal to an integer is seen as that integer. -/
inductive Sight
  | nothing
  | integer (n : Int)
  | size (u : Float.Model.UnpackedFloat)
  | text (s : String)
  | date (d : Date)
  | moment (m : Moment)

def Sight.isFigure : Sight → Bool
  | .integer _ | .size _ => true
  | _ => false

/-- An integer if it is equal to one, and else its size. -/
def sightOf (x : Float) : Option Sight :=
  if floatIsInt x (integerPart x) then some (.integer (integerPart x))
  else (seen x.toModel.unpack).map .size

def sight : Value → Option Sight
  | null => some .nothing
  | bool b => some (.integer (if b then 1 else 0))
  | int n => some (.integer n)
  | number x => sightOf x
  | text s => some (.text s)
  | date d => some (.date d)
  | moment m => some (.moment m)
  | list _ | object _ => none

section
variable {x y : Float} {n : Int}

theorem eq_integerPart (h : floatIsInt x n = true) : n = integerPart x := by
  simp only [floatIsInt, Bool.and_eq_true, beq_iff_eq] at h
  exact h.1.2.symm

theorem beq_of_floatIsInt (h : floatIsInt x n = true) : (x == Number.ofInt n) = true :=
  (Bool.and_eq_true_iff.mp h).2

theorem floatIsInt_of_beq (h : (x == y) = true) (hx : floatIsInt x n = true) :
    floatIsInt y n = true := by
  simp only [floatIsInt, Bool.and_eq_true] at hx ⊢
  obtain ⟨⟨hfinite, hpart⟩, hn⟩ := hx
  rw [← isFinite_eq_of_beq h, ← integerPart_eq_of_beq h hfinite]
  exact ⟨⟨hfinite, hpart⟩, beq_trans (beq_symm h) hn⟩

theorem sightOf_of_floatIsInt (h : floatIsInt x n = true) : sightOf x = some (.integer n) := by
  rw [sightOf, ← eq_integerPart h, if_pos h]

theorem of_sightOf {k : Sight} (h : sightOf x = some k) :
    (∃ n, k = .integer n ∧ floatIsInt x n = true) ∨
      ∃ u, k = .size u ∧ seen x.toModel.unpack = some u := by
  unfold sightOf at h
  split at h
  · cases h
    exact .inl ⟨_, rfl, ‹_›⟩
  · obtain ⟨u, hu, rfl⟩ := Option.map_eq_some_iff.mp h
    exact .inr ⟨u, rfl, hu⟩

theorem sightOf_ne {k : Sight} (h : k.isFigure = false) : sightOf x ≠ some k := by
  intro hk
  rcases of_sightOf hk with ⟨n, rfl, -⟩ | ⟨u, rfl, -⟩ <;> cases h

theorem floatIsInt_iff : floatIsInt x n = true ↔ sightOf x = some (.integer n) := by
  refine ⟨sightOf_of_floatIsInt, fun h => ?_⟩
  rcases of_sightOf h with ⟨m, hm, hx⟩ | ⟨u, hu, -⟩
  · cases hm
    exact hx
  · cases hu

theorem beq_iff_sightOf : (x == y) = true ↔ ∃ k, sightOf x = some k ∧ sightOf y = some k := by
  constructor
  · intro h
    by_cases hx : floatIsInt x (integerPart x) = true
    · exact ⟨_, sightOf_of_floatIsInt hx, sightOf_of_floatIsInt (floatIsInt_of_beq h hx)⟩
    · have hy : ¬floatIsInt y (integerPart y) = true := by
        intro hy
        have hback := floatIsInt_of_beq (beq_symm h) hy
        exact hx (eq_integerPart hback ▸ hback)
      obtain ⟨u, hu, hv⟩ := beq_iff.mp h
      exact ⟨.size u, by rw [sightOf, if_neg hx, hu]; rfl, by rw [sightOf, if_neg hy, hv]; rfl⟩
  · rintro ⟨k, hx, hy⟩
    rcases of_sightOf hx with ⟨n, rfl, hn⟩ | ⟨u, rfl, hu⟩
    · exact beq_trans (beq_of_floatIsInt hn) (beq_symm (beq_of_floatIsInt (floatIsInt_iff.mpr hy)))
    · rcases of_sightOf hy with ⟨n, hn, -⟩ | ⟨v, hv, hv'⟩
      · cases hn
      · cases hv
        exact beq_iff.mpr ⟨u, hu, hv'⟩

end

theorem same_iff (a b : Value) :
    (a == b) = true ↔ ∃ k, a.sight = some k ∧ b.sight = some k := by
  change same a b = true ↔ _
  cases a <;> cases b <;> simp [same, asInt?, sight, floatIsInt_iff, beq_iff_sightOf]
  -- two of one kind are left, and figures beside values of other kinds
  all_goals first | exact eq_comm | exact sightOf_ne rfl

theorem same_symm {a b : Value} (h : (a == b) = true) : (b == a) = true := by
  obtain ⟨k, ha, hb⟩ := (same_iff a b).mp h
  exact (same_iff b a).mpr ⟨k, hb, ha⟩

theorem same_trans {a b c : Value} (h : (a == b) = true) (h' : (b == c) = true) :
    (a == c) = true := by
  obtain ⟨k, ha, hb⟩ := (same_iff a b).mp h
  obtain ⟨l, hb', hc⟩ := (same_iff b c).mp h'
  obtain rfl : k = l := Option.some.inj (hb.symm.trans hb')
  exact (same_iff a c).mpr ⟨k, ha, hc⟩

/-- What can be told apart from others and is not missing is the same as itself. -/
theorem same_self {a : Value} (hcount : a.isCountable = true) (hid : a.isMissingId = false) :
    (a == a) = true := by
  have hsight : ∃ k, a.sight = some k := by
    cases a with
    | number x =>
      obtain ⟨k, hk, -⟩ := beq_iff_sightOf.mp (beq_self hid)
      exact ⟨k, hk⟩
    | list items => cases hcount
    | object fields => cases hcount
    | _ => exact ⟨_, rfl⟩
  obtain ⟨k, hk⟩ := hsight
  exact (same_iff a a).mpr ⟨k, hk, hk⟩

end Value

end SalesDesk
