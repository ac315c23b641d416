import SalesDesk.Proofs.Number.Sign

/-!
The range of doubles. An integer has a finite double exactly if it is below the place halfway from
the largest double to the next power of two; the double has the sign of the integer. The integer
part of a finite double is in the range.
-/
namespace SalesDesk.Number

open Float.Model UnpackedFloat

theorem floorLog_one {n : Nat} (h : n ≠ 0) : floorLog n 1 = n.log2 := by
  have hreached : 2 ^ n.log2 ≤ n := Nat.log2_self_le h
  have hlog : Int.ofNat n.log2 - Int.ofNat (Nat.log2 1) = n.log2 := by
    rw [show Nat.log2 1 = 0 by decide]
    simp
  simp only [floorLog, hlog]
  simp [hreached]

theorem roundHalfEven_le {num den bound : Nat} (h : num < bound * den) :
    roundHalfEven num den ≤ bound := by
  have hq : num / den < bound := Nat.div_lt_of_lt_mul (by rwa [Nat.mul_comm])
  unfold roundHalfEven
  simp only
  split_ifs
  · omega
  · omega
  · omega

theorem le_roundHalfEven (num den : Nat) : num / den ≤ roundHalfEven num den := by
  unfold roundHalfEven
  simp only
  split_ifs
  · exact Nat.le_refl _
  · exact Nat.le_succ _
  · exact Nat.le_add_right _ _

/-- The halfway point below an even number rounds up to it. -/
theorem roundHalfEven_lt_iff {num den k : Nat} (hk : 0 < k) (hden : 0 < den) :
    roundHalfEven num den < 2 * k ↔ 2 * num < (4 * k - 1) * den := by
  have hnum : 2 * num = 2 * (num / den) * den + 2 * (num % den) := by
    have h := Nat.div_add_mod num den
    rw [Nat.mul_comm] at h
    rw [Nat.mul_assoc]
    omega
  have hr : num % den < den := Nat.mod_lt _ hden
  unfold roundHalfEven
  simp only
  generalize num / den = q at *
  generalize num % den = r at *
  rw [hnum]
  -- The quotient is below the last half, in it, or beyond it.
  rcases Nat.lt_trichotomy (q + 1) (2 * k) with hq | hq | hq
  · have hle : (2 * q + 2) * den ≤ (4 * k - 1) * den := Nat.mul_le_mul_right _ (by omega)
    rw [Nat.add_mul] at hle
    split_ifs <;> omega
  · have heq : (4 * k - 1) * den = 2 * q * den + den := by
      rw [show 4 * k - 1 = 2 * q + 1 by omega, Nat.add_mul, Nat.one_mul]
    split_ifs <;> omega
  · have hle : (4 * k - 1) * den ≤ 2 * q * den := Nat.mul_le_mul_right _ (by omega)
    split_ifs <;> omega

/-- The place of half a unit of the last bit that the largest doubles have. -/
@[irreducible] def halfPlace : Nat := 970

theorem halfPlace_eq : halfPlace = 970 := by rw [halfPlace]

/-- The least size that rounds to more than any double: halfway from the largest one to the next
power of two. -/
def overflow : Nat := 0x3fffffffffffff * Nat.pow 2 halfPlace

/-- The powers of two about the threshold, in halves of units of the last bit. -/
theorem exists_half_unit : ∃ half, 0x10000000000000000 ≤ half ∧ overflow = 0x3fffffffffffff * half ∧
    Nat.pow 2 (halfPlace + 53) = 0x20000000000000 * half ∧
    Nat.pow 2 (halfPlace + 54) = 0x40000000000000 * half ∧
    Nat.pow 2 (halfPlace + 1) = 2 * half := by
  have hpow (k m n : Nat) (h : Nat.pow 2 m = n) : Nat.pow 2 (k + m) = n * Nat.pow 2 k := by
    rw [← h, Nat.mul_comm]
    exact Nat.pow_add 2 k m
  have hlarge : Nat.pow 2 64 ≤ Nat.pow 2 halfPlace :=
    Nat.pow_le_pow_right (by decide) (by rw [halfPlace_eq]; decide)
  exact ⟨Nat.pow 2 halfPlace, hlarge, by rw [overflow], hpow _ 53 _ rfl, hpow _ 54 _ rfl,
    hpow _ 1 _ rfl⟩

/-- The 53 bits of the double of an integer, or one more where they are rounded up to the next
power of two. -/
def significandOf (n : Nat) : Nat :=
  if 0 ≤ (n.log2 : Int) - 52 then roundHalfEven n (1 * Nat.pow 2 ((n.log2 : Int) - 52).toNat)
  else roundHalfEven (n * Nat.pow 2 (-((n.log2 : Int) - 52)).toNat) 1

theorem significandOf_bounds {n : Nat} (hn : n ≠ 0) :
    leadingBit ≤ significandOf n ∧ significandOf n ≤ 2 * leadingBit := by
  have hlow : 2 ^ n.log2 ≤ n := Nat.log2_self_le hn
  have hhigh : n < 2 ^ (n.log2 + 1) := Nat.lt_log2_self
  have hbits : leadingBit = 2 ^ 52 := rfl
  have hbits' : 2 * leadingBit = 2 ^ 53 := rfl
  unfold significandOf
  simp only [Nat.pow_eq]
  rw [hbits', hbits]
  split_ifs with hle
  · have hlog : n.log2 = 52 + ((n.log2 : Int) - 52).toNat := by omega
    generalize ((n.log2 : Int) - 52).toNat = k at *
    rw [hlog] at hlow hhigh
    rw [Nat.one_mul]
    constructor
    · refine Nat.le_trans ?_ (le_roundHalfEven _ _)
      rw [Nat.le_div_iff_mul_le (Nat.two_pow_pos _), ← Nat.pow_add]
      exact hlow
    · apply roundHalfEven_le
      rwa [← Nat.pow_add, show 53 + k = 52 + k + 1 by omega]
  · have hlog : n.log2 + (-((n.log2 : Int) - 52)).toNat = 52 := by omega
    generalize (-((n.log2 : Int) - 52)).toNat = k at *
    constructor
    · refine Nat.le_trans ?_ (le_roundHalfEven _ _)
      rw [Nat.div_one, ← hlog, Nat.pow_add]
      exact Nat.mul_le_mul_right _ hlow
    · apply roundHalfEven_le
      rw [Nat.mul_one, show 53 = n.log2 + 1 + k by omega, Nat.pow_add]
      exact Nat.mul_lt_mul_of_pos_right hhigh (Nat.two_pow_pos _)

/-- The double of an integer has the place of its leading bit as exponent, and its first bits. -/
theorem nearestBits_one {n : Nat} (hn : n ≠ 0) :
    nearestBits n 1 =
      min ((n.log2 + 1023) * leadingBit + (significandOf n - leadingBit)) (2047 * leadingBit) := by
  have hshift : max (floorLog n 1 - 52) (-1074) = (n.log2 : Int) - 52 := by
    rw [floorLog_one hn]
    omega
  have hsignificand : (if 0 ≤ (n.log2 : Int) - 52 then
      roundHalfEven n (1 * Nat.pow 2 ((n.log2 : Int) - 52).toNat)
      else roundHalfEven (n * Nat.pow 2 (-((n.log2 : Int) - 52)).toNat) 1) = significandOf n := rfl
  have hfull := (significandOf_bounds hn).1
  unfold nearestBits
  rw [if_neg hn]
  simp only [hshift, hsignificand]
  rw [if_neg (Nat.not_lt.mpr hfull),
    show ((n.log2 : Int) - 52 + 1075).toNat = n.log2 + 1023 by omega]

/-- Only in the last binade does it depend on the rounding whether a double is finite. -/
theorem min_lt_iff {place significand : Nat} (hlow : leadingBit ≤ significand)
    (hhigh : significand ≤ 2 * leadingBit) :
    min ((place + 1023) * leadingBit + (significand - leadingBit)) (2047 * leadingBit) <
        2047 * leadingBit ↔
      place < 1023 ∨ place = 1023 ∧ significand < 2 * leadingBit := by
  unfold leadingBit at *
  omega

theorem nearestBits_lt_iff {n : Nat} : nearestBits n 1 < 2047 * leadingBit ↔ n < overflow := by
  obtain ⟨half, hlarge, hoverflow, hleast, hmost, hunit⟩ := exists_half_unit
  have hplace := halfPlace_eq
  by_cases hzero : n = 0
  · have hoverflow : 0 < overflow := by omega
    simp [hzero, hoverflow, nearestBits, leadingBit]
  obtain ⟨hlow, hhigh⟩ := significandOf_bounds hzero
  have hself : Nat.pow 2 n.log2 ≤ n := Nat.log2_self_le hzero
  have hbound : n < Nat.pow 2 (n.log2 + 1) := Nat.lt_log2_self
  rw [nearestBits_one hzero, min_lt_iff hlow hhigh]
  rcases Nat.lt_trichotomy n.log2 1023 with hlog | hlog | hlog
  · have hpow : Nat.pow 2 (n.log2 + 1) ≤ Nat.pow 2 (halfPlace + 53) :=
      Nat.pow_le_pow_right (by decide) (by omega)
    exact ⟨fun _ => by omega, fun _ => .inl hlog⟩
  · have hshift : ((n.log2 : Int) - 52).toNat = halfPlace + 1 := by
      omega
    have hsignificand : significandOf n = roundHalfEven n (2 * half) := by
      unfold significandOf
      rw [if_pos (by rw [hlog]; decide), hshift, Nat.one_mul, hunit]
    have hhalf : roundHalfEven n (2 * half) < 2 * leadingBit ↔
        2 * n < (4 * leadingBit - 1) * (2 * half) :=
      roundHalfEven_lt_iff (by decide) (by omega)
    rw [show 4 * leadingBit - 1 = 0x3fffffffffffff by decide, ← hsignificand] at hhalf
    generalize significandOf n = significand at *
    omega
  · have hpow : Nat.pow 2 (halfPlace + 54) ≤ Nat.pow 2 n.log2 :=
      Nat.pow_le_pow_right (by decide) (by omega)
    omega

theorem nearestBits_le (num den : Nat) : nearestBits num den ≤ 2047 * leadingBit := by
  have hsmall {m : Nat} (h : m < leadingBit) : m ≤ 2047 * leadingBit := by omega
  unfold nearestBits
  simp only
  split_ifs
  · exact Nat.zero_le _
  · exact hsmall ‹_›
  · exact Nat.min_le_right _ _
  · exact hsmall ‹_›
  · exact Nat.min_le_right _ _

theorem le_nearestBits_one {n : Nat} (hn : n ≠ 0) : leadingBit ≤ nearestBits n 1 := by
  rw [nearestBits_one hn]
  unfold leadingBit
  omega

theorem toNat_nearestBits (num den : Nat) :
    (nearestBits num den).toUInt64.toNat = nearestBits num den := by
  have hle := nearestBits_le num den
  rw [Nat.toUInt64, UInt64.toNat_ofNat']
  unfold leadingBit at hle
  omega

theorem isFinite_nearest_one_iff (n : Nat) : (nearest n 1).isFinite = true ↔ n < overflow := by
  rw [← nearestBits_lt_iff]
  constructor
  · intro h
    by_contra hge
    have hinfinite : nearestBits n 1 = 2047 * leadingBit :=
      Nat.le_antisymm (nearestBits_le n 1) (Nat.not_lt.mp hge)
    rw [nearest, hinfinite] at h
    revert h
    with_unfolding_all decide
  · intro h
    apply isFinite_ofBits
    rwa [toNat_nearestBits]

theorem isFinite_neg_iff (x : Float) : (-x).isFinite = true ↔ x.isFinite = true := by
  refine ⟨fun h => ?_, isFinite_neg⟩
  have hneg : (-x).toModel.unpack = (Float.Model.pack x.toModel.unpack.neg).unpack := rfl
  change (-x).toModel.unpack.isFinite = true at h
  rw [hneg] at h
  change x.toModel.unpack.isFinite = true
  cases hu : x.toModel.unpack with
  | notANumber =>
    rw [hu] at h
    revert h
    with_unfolding_all decide
  | infinity s =>
    rw [hu] at h
    cases s <;> revert h <;> with_unfolding_all decide
  | zero | finite => rfl

/-- An integer has no finite double exactly from the threshold on. -/
theorem ofInt?_eq_none_iff (n : Int) : ofInt? n = none ↔ overflow ≤ n.natAbs := by
  have hfinite : (ofInt n).isFinite = true ↔ n.natAbs < overflow := by
    rw [← isFinite_nearest_one_iff]
    unfold ofInt nearestQuotient
    simp only
    split_ifs
    · exact isFinite_neg_iff _
    · rfl
  unfold ofInt?
  simp only [ite_eq_right_iff, reduceCtorEq, imp_false, hfinite]
  omega

theorem lt_overflow {n : Nat} (h : n < 0x10000000000000000) : n < overflow := by
  obtain ⟨half, hlarge, hoverflow, -⟩ := exists_half_unit
  omega

theorem ofInt?_eq_some {n : Int} (h : n.natAbs < overflow) :
    ofInt? n = some (ofInt n) ∧ (ofInt n).isFinite = true := by
  have hsome : ofInt? n ≠ none := mt (ofInt?_eq_none_iff n).mp (Nat.not_le.mpr h)
  unfold ofInt? at hsome ⊢
  simp only at hsome ⊢
  split_ifs at hsome ⊢ with hfinite
  · exact ⟨rfl, hfinite⟩
  · exact absurd rfl hsome

/-- Bits with an exponent of their own and no sign are those of a positive number. -/
theorem unpack_of_bits {b : BitVec 64} (hlow : leadingBit ≤ b.toNat)
    (hhigh : b.toNat < 2047 * leadingBit) :
    ∃ m e, ∃ hm : 0 < m, UnpackedFloat.unpack .binary64 b = .finite .positive m e hm ∧
      Canonical m e := by
  have hbias : Format.binary64.exponentBias = 1023 := by decide
  have hexponent := toNat_unpackExponent b
  have hfraction := toNat_unpackMantissa b
  have hsign := toNat_unpackSign b
  have hless : b.toNat % leadingBit < leadingBit := Nat.mod_lt _ (by decide)
  have hpositive : Sign.ofBitVec (@unpackSign .binary64 b) = .positive := by
    have hne := mt (ofBitVec_eq_negative_iff (@unpackSign .binary64 b)).mp
      (by rw [hsign]; unfold leadingBit at hhigh; omega)
    cases hs : Sign.ofBitVec (@unpackSign .binary64 b) with
    | positive => rfl
    | negative => exact absurd hs hne
  have hones : @unpackExponent .binary64 b ≠ -1#11 := by
    intro h
    rw [h] at hexponent
    change 2047 = _ at hexponent
    unfold leadingBit at hexponent hhigh
    omega
  have hzero : @unpackExponent .binary64 b ≠ 0#11 := by
    intro h
    rw [h] at hexponent
    change 0 = _ at hexponent
    unfold leadingBit at hexponent hlow hhigh
    omega
  have hm : 0 < (1#1 ++ @unpackMantissa .binary64 b).toNat := by
    rw [toNat_append_one]
    exact Nat.lt_of_lt_of_le (by decide) (Nat.le_add_left _ _)
  unfold UnpackedFloat.unpack
  rw [if_neg hones, if_neg hzero]
  refine ⟨_, _, hm, finite_congr hpositive rfl rfl, ?_⟩
  have hlog := log2_of_leadingBit _ hless
  rw [hbias]
  change Canonical _ (_ - (((1023 : Nat) : Int) + ((52 : Nat) : Int)))
  rw [toNat_append_one, hfraction, hexponent]
  exact ⟨Nat.le_of_eq hlog, by unfold leadingBit at *; omega, .inl hlog⟩

/-- The double of an integer other than zero is positive, or infinite. -/
theorem unpack_nearest_one {n : Nat} (hn : n ≠ 0) :
    (nearest n 1).toModel.unpack = .infinity .positive ∨
      ∃ m e, ∃ hm : 0 < m, (nearest n 1).toModel.unpack = .finite .positive m e hm ∧
        Canonical m e := by
  by_cases hlt : nearestBits n 1 < 2047 * leadingBit
  · obtain ⟨m, e, hm, hunpack, hform⟩ := unpack_of_bits (b := (nearestBits n 1).toUInt64.toBitVec)
      (by rw [UInt64.toNat_toBitVec, toNat_nearestBits]; exact le_nearestBits_one hn)
      (by rw [UInt64.toNat_toBitVec, toNat_nearestBits]; exact hlt)
    have hbits : (nearest n 1).toModel.unpack = (Float.Model.pack
        (UnpackedFloat.unpack .binary64 (nearestBits n 1).toUInt64.toBitVec)).unpack := rfl
    rw [hbits, hunpack]
    exact (unpack_pack hform).imp id fun h => ⟨m, e, hm, h, hform⟩
  · have hmost : nearestBits n 1 = 2047 * leadingBit :=
      Nat.le_antisymm (nearestBits_le n 1) (Nat.not_lt.mp hlt)
    rw [nearest, hmost]
    exact .inl (by with_unfolding_all rfl)

theorem sign?_nearest_one {n : Nat} (hn : n ≠ 0) :
    sign? (nearest n 1).toModel.unpack = some .positive ∧
      sign? (-nearest n 1).toModel.unpack = some .negative := by
  have hneg : (-nearest n 1).toModel.unpack =
      (Float.Model.pack (nearest n 1).toModel.unpack.neg).unpack := rfl
  rw [hneg]
  rcases unpack_nearest_one hn with h | ⟨m, e, hm, h, hform⟩
  · rw [h]
    exact ⟨rfl, by with_unfolding_all rfl⟩
  · rw [h]
    exact ⟨rfl, (Reaches.intro hm hform (Int.le_refl _)).sign?_pack⟩

theorem ofInt_lt_zero_iff (n : Int) : ofInt n < ofInt 0 ↔ n < 0 := by
  rw [lt_zero_iff]
  rcases Int.lt_trichotomy n 0 with hn | rfl | hn
  · have hneg : ofInt n = -nearest n.natAbs 1 := by
      simp [ofInt, nearestQuotient, hn]
    rw [hneg, (sign?_nearest_one (by omega)).2]
    simp [hn]
  · rw [unpack_zero]
    exact iff_of_false (fun h => Option.some_ne_none _ h.symm) (Int.lt_irrefl 0)
  · have hpos : ofInt n = nearest n.natAbs 1 := by
      simp [ofInt, nearestQuotient, Int.not_lt.mpr (Int.le_of_lt hn)]
    rw [hpos, (sign?_nearest_one (by omega)).1]
    simp [Int.not_lt.mpr (Int.le_of_lt hn)]

theorem lt_literal_zero_iff (x : Float) : x < 0 ↔ x < ofInt 0 := by
  have hzero : (0 : Float).toModel.unpack = (ofInt 0).toModel.unpack := by with_unfolding_all rfl
  rw [lt_iff_compare, lt_iff_compare, hzero]

/-- The size of a finite double has 53 bits at most, the last one in a place of the range. -/
theorem magnitude_bounds {x : Float} (h : x.isFinite = true) :
    (magnitude x).significand < 2 * leadingBit ∧ -1074 ≤ (magnitude x).exponent ∧
      (magnitude x).exponent ≤ halfPlace + 1 := by
  have htells := tells_unpack x
  have hfits : Fits x.toModel.unpack := fits_of_isFinite h
  cases hu : x.toModel.unpack with
  | notANumber | infinity =>
    rw [hu] at hfits
    exact hfits.elim
  | zero s =>
    rw [hu] at htells
    rw [show magnitude x = ⟨0, -1074⟩ from htells]
    decide
  | finite s m e hm =>
    have hform := canonical_of_unpack hu
    rw [hu] at hfits
    rw [(magnitude_of_unpack hu).1]
    have hbits : m < 2 ^ (m.log2 + 1) := Nat.lt_log2_self
    have hpow : 2 ^ (m.log2 + 1) ≤ 2 ^ 53 :=
      Nat.pow_le_pow_right (by decide) (Nat.succ_le_succ hform.bits)
    have hplace := halfPlace_eq
    change (e + 1075).toNat < 2047 at hfits
    refine ⟨Nat.lt_of_lt_of_le hbits hpow, hform.least, ?_⟩
    change e ≤ _
    omega

theorem natAbs_integerPart_lt {x : Float} (h : x.isFinite = true) :
    (integerPart x).natAbs < overflow := by
  obtain ⟨hbits, -, hplace⟩ := magnitude_bounds h
  obtain ⟨half, hlarge, hoverflow, -, -, hunit⟩ := exists_half_unit
  have hsize : (magnitude x).quotient.1 / (magnitude x).quotient.2 < overflow := by
    unfold leadingBit at hbits
    generalize magnitude x = m at *
    unfold Magnitude.quotient
    split_ifs with he
    · have hpow : Nat.pow 2 m.exponent.toNat ≤ Nat.pow 2 (halfPlace + 1) :=
        Nat.pow_le_pow_right (by decide) (by omega)
      rw [hunit] at hpow
      have hmul := Nat.mul_le_mul (show m.significand ≤ 0x1fffffffffffff by omega) hpow
      rw [Nat.div_one]
      omega
    · have hle := Nat.div_le_self m.significand (Nat.pow 2 (-m.exponent).toNat)
      dsimp only
      omega
  unfold integerPart
  simp only
  split_ifs
  · rwa [Int.natAbs_neg, Int.natAbs_natCast]
  · rwa [Int.natAbs_natCast]

end SalesDesk.Number
