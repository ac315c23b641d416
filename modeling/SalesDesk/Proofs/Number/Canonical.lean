import SalesDesk.Proofs.Value.Same

/-!
The form in which doubles hold finite numbers. The significand has 53 bits, or it has fewer and the
exponent is the least one. A datum of this form survives packing, unless it is too large and becomes
infinite.
-/
namespace SalesDesk.Number

open Float.Model UnpackedFloat

theorem targetExponent_binary64 (total : Int) :
    Format.binary64.targetExponent total = max (total - 53) (-1074) := by
  have hmin : Format.binary64.minExponent = -1074 := by decide
  rw [Format.targetExponent, hmin]
  rfl

/-- The exponent that a double keeps a number at. -/
theorem targetExponent_eq (m : Nat) (e : Int) :
    Format.binary64.targetExponent (totalExponent m e) = max ((m.log2 : Int) + e - 52) (-1074) := by
  rw [targetExponent_binary64, totalExponent]
  omega

/-- A significand and an exponent as doubles hold them. -/
structure Canonical (m : Nat) (e : Int) : Prop where
  bits : m.log2 ≤ 52
  least : -1074 ≤ e
  full : m.log2 = 52 ∨ e = -1074

theorem log2_of_lt {m : Nat} (h : m < leadingBit) : m.log2 < 52 := by
  by_cases hzero : m = 0
  · rw [hzero, Nat.log2_zero]
    decide
  · exact (Nat.log2_lt hzero).mpr h

theorem log2_of_leadingBit (m : Nat) (h : m < leadingBit) : (m + leadingBit).log2 = 52 := by
  unfold leadingBit at h ⊢
  exact (Nat.log2_eq_iff (by omega)).mpr ⟨by omega, by omega⟩

section
variable {s : Sign} {m : Nat} {e : Int} {hm : 0 < m}

theorem canonical_of_unpack {x : Float} (h : x.toModel.unpack = .finite s m e hm) :
    Canonical m e := by
  have hfraction : x.toBits.toNat % leadingBit < leadingBit := Nat.mod_lt _ (by decide)
  have hmagnitude := (magnitude_of_unpack h).1
  rw [magnitude] at hmagnitude
  split at hmagnitude
  · cases hmagnitude
    exact ⟨Nat.le_of_lt (log2_of_lt hfraction), by omega, .inr rfl⟩
  · rename_i hfield
    cases hmagnitude
    have hlog := log2_of_leadingBit _ hfraction
    have hleast : ((x.toBits.toNat / leadingBit % 2048 : Nat) : Int) ≥ 0 := Int.natCast_nonneg _
    refine ⟨Nat.le_of_eq hlog, ?_, .inl hlog⟩
    change -1074 ≤ ((x.toBits.toNat / leadingBit % 2048 : Nat) : Int) - 1075
    omega

theorem unpackSign_packComponents (spec : Format) (s : Sign) (e : BitVec spec.exponentBits)
    (m : BitVec spec.mantissaBitsWithoutImplicit) :
    unpackSign (packComponents spec s e m) = s.toBitVec := by
  apply BitVec.eq_of_getLsbD_eq
  intro i hi
  obtain rfl : i = 0 := by omega
  unfold unpackSign packComponents
  simp [BitVec.getLsbD_append, BitVec.getElem_append]

theorem sign_packComponents (spec : Format) (s : Sign) (e : BitVec spec.exponentBits)
    (m : BitVec spec.mantissaBitsWithoutImplicit) :
    Sign.ofBitVec (unpackSign (packComponents spec s e m)) = s := by
  rw [unpackSign_packComponents]
  cases s <;> rfl

theorem unpack_packedInfinity (s : Sign) :
    UnpackedFloat.unpack .binary64 (packedInfinity .binary64 s) = .infinity s := by
  cases s <;> rfl

theorem finite_congr {s' : Sign} {m' : Nat} {e' : Int} {hm' : 0 < m'} (hs : s = s')
    (hmantissa : m = m') (hexponent : e = e') :
    UnpackedFloat.finite s m e hm = .finite s' m' e' hm' := by
  subst hs hmantissa hexponent
  rfl

theorem unpack_packComponents_low (hm : 0 < m) (hlow : m < leadingBit) :
    UnpackedFloat.unpack .binary64 (packComponents .binary64 s 0#11 (BitVec.ofNat 52 m)) =
      .finite s m (-1074) hm := by
  have hnat : (BitVec.ofNat 52 m).toNat = m := by
    rw [BitVec.toNat_ofNat]
    exact Nat.mod_eq_of_lt hlow
  have hne : BitVec.ofNat 52 m ≠ 0#52 := by
    intro hzero
    rw [hzero] at hnat
    exact absurd hnat.symm (Nat.ne_of_gt hm)
  have hexponent : unpackExponent (packComponents .binary64 s 0#11 (BitVec.ofNat 52 m)) = 0#11 :=
    unpackExponent_packComponents
  have hmantissa : unpackMantissa (packComponents .binary64 s 0#11 (BitVec.ofNat 52 m)) =
      BitVec.ofNat 52 m := unpackMantissa_packComponents
  unfold UnpackedFloat.unpack
  dsimp only
  rw [if_neg (by rw [hexponent]; decide), if_pos hexponent, dif_neg (by rw [hmantissa]; exact hne)]
  exact finite_congr (sign_packComponents _ s _ _) (by rw [hmantissa, hnat])
    (by rw [hexponent]; rfl)

theorem unpack_packComponents_full (hm : 0 < m) (hlog : m.log2 = 52) {n : Nat} (hpos : 0 < n)
    (hlt : n < 2047) :
    UnpackedFloat.unpack .binary64
        (packComponents .binary64 s (BitVec.ofNat 11 n) (BitVec.ofNat 52 m)) =
      .finite s m (n - 1075) hm := by
  have hsize := (Nat.log2_eq_iff (Nat.ne_of_gt hm)).mp hlog
  have hnat : (BitVec.ofNat 11 n).toNat = n := by
    rw [BitVec.toNat_ofNat]
    exact Nat.mod_eq_of_lt (by omega)
  have hmantissa : (1#1 ++ BitVec.ofNat 52 m).toNat = m := by
    rw [toNat_append_one, BitVec.toNat_ofNat, leadingBit]
    omega
  have hones : BitVec.ofNat 11 n ≠ -1#11 := fun h => by
    rw [h] at hnat
    exact absurd hnat (Nat.ne_of_gt hlt)
  have hzero : BitVec.ofNat 11 n ≠ 0#11 := fun h => by
    rw [h] at hnat
    exact absurd hnat (Nat.ne_of_lt hpos)
  have hexponent : unpackExponent (packComponents .binary64 s (BitVec.ofNat 11 n)
      (BitVec.ofNat 52 m)) = BitVec.ofNat 11 n := unpackExponent_packComponents
  have hfraction : unpackMantissa (packComponents .binary64 s (BitVec.ofNat 11 n)
      (BitVec.ofNat 52 m)) = BitVec.ofNat 52 m := unpackMantissa_packComponents
  unfold UnpackedFloat.unpack
  dsimp only
  rw [if_neg (by rw [hexponent]; exact hones), if_neg (by rw [hexponent]; exact hzero)]
  exact finite_congr (sign_packComponents _ s _ _) (by rw [hfraction]; exact hmantissa)
    (by rw [hexponent, hnat]; rfl)

/-- The two layouts of a packed number, if it is not too large. -/
theorem pack_finite (h : Canonical m e) :
    UnpackedFloat.pack .binary64 (.finite s m e hm) = packedInfinity .binary64 s ∨
      (m.log2 = 52 ∧ (e + 1075).toNat < 2047 ∧ UnpackedFloat.pack .binary64 (.finite s m e hm) =
        packComponents .binary64 s (BitVec.ofNat 11 (e + 1075).toNat) (BitVec.ofNat 52 m)) ∨
      (m.log2 < 52 ∧ UnpackedFloat.pack .binary64 (.finite s m e hm) =
        packComponents .binary64 s 0#11 (BitVec.ofNat 52 m)) := by
  have hbias : e + (Format.binary64.exponentBias : Int) + (52 : Nat) = e + 1075 := by
    rw [show Format.binary64.exponentBias = 1023 by decide]
    omega
  have hbits : Format.binary64.mantissaBits = 53 := rfl
  have hfull := h.bits
  unfold UnpackedFloat.pack
  dsimp only
  rw [hbias, hbits]
  split
  · exact .inl rfl
  · right
    split
    · exact .inl ⟨by omega, by omega, rfl⟩
    · exact .inr ⟨by omega, rfl⟩

theorem unpack_pack (h : Canonical m e) :
    (Float.Model.pack (.finite s m e hm)).unpack = .infinity s ∨
      (Float.Model.pack (.finite s m e hm)).unpack = .finite s m e hm := by
  have hleast := h.least
  change UnpackedFloat.unpack .binary64 (UnpackedFloat.pack .binary64 (.finite s m e hm)) = _ ∨
    UnpackedFloat.unpack .binary64 (UnpackedFloat.pack .binary64 (.finite s m e hm)) = _
  rcases pack_finite h with hpack | ⟨hlog, hlt, hpack⟩ | ⟨hlog, hpack⟩
  · rw [hpack]
    exact .inl (unpack_packedInfinity s)
  · rw [hpack, unpack_packComponents_full hm hlog (by omega) hlt]
    exact .inr (finite_congr rfl rfl (by omega))
  · obtain rfl : e = -1074 := h.full.resolve_left (Nat.ne_of_lt hlog)
    rw [hpack]
    exact .inr (unpack_packComponents_low hm ((Nat.log2_lt (Nat.ne_of_gt hm)).mp hlog))

end

end SalesDesk.Number
