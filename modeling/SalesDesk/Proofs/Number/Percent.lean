import SalesDesk.Proofs.Number.Sign

/-!
The change from one double to another over the first one, in percent. It has the sign of the exact
quotient: neither the difference nor the quotient is ever so small that it vanishes.
-/
namespace SalesDesk.Number

open Float.Model UnpackedFloat

theorem unpack_hundred : (ofInt 100).toModel.unpack =
    .finite .positive 0x19000000000000 (-46) (by decide) := by
  with_unfolding_all rfl

/-- A quotient does not vanish if the dividend is not much smaller than the divisor. -/
theorem reaches_div {s t : Sign} {m n : Nat} {e f : Int} (hm : 0 < m) (hn : 0 < n)
    (hx : Canonical m e) (hy : Canonical n f) (hplace : (m.log2 : Int) + e - 53 ≤ n.log2 + f) :
    ∃ place, Reaches (t / s) place
      (UnpackedFloat.div .binary64 (.finite t n f hn) (.finite s m e hm)) := by
  have hbits := hx.bits
  have hbits' := hy.bits
  -- The quotient gets all bits of a double, and is far above the least one.
  have htarget : min (f - e)
      (Format.binary64.targetExponent (totalExponent n f - totalExponent m e)) =
        (n.log2 : Int) + f - (m.log2 + e) - 53 := by
    rw [targetExponent_binary64, totalExponent, totalExponent]
    omega
  have hquotient : divCore .binary64 n f m e =
      ((n <<< (m.log2 + 53 - n.log2)) / m, (n.log2 : Int) + f - (m.log2 + e) - 53,
        accuracyOfFraction ((n <<< (m.log2 + 53 - n.log2)) % m) m) := by
    have hshift : (f - e - ((n.log2 : Int) + f - (m.log2 + e) - 53)).toNat =
        m.log2 + 53 - n.log2 := by
      omega
    rw [divCore, htarget, hshift]
  have hlog := log2_shiftLeft hn (m.log2 + 53 - n.log2)
  have hfull := log2_le_div (a := n <<< (m.log2 + 53 - n.log2)) hm
  change ∃ place, Reaches (t / s) place (roundWithAccuracy .binary64 (t / s)
    (divCore .binary64 n f m e).1 (divCore .binary64 n f m e).2.1 (divCore .binary64 n f m e).2.2)
  rw [hquotient]
  dsimp only
  generalize n <<< (m.log2 + 53 - n.log2) = a at *
  have hpos : 0 < a / m := by
    rcases Nat.eq_zero_or_pos (a / m) with hzero | hpos
    · rw [hzero, Nat.log2_zero] at hfull
      omega
    · exact hpos
  exact ⟨_, reaches_roundWithAccuracy (t / s) hpos (by omega) (.inl (by omega)) _⟩

/-- A product with a number of all bits that is no fraction below them does not vanish. -/
theorem reaches_mul {s t : Sign} {m n : Nat} {e f : Int} (hm : 0 < m) (hn : 0 < n)
    (hx : Canonical m e) (hlog : n.log2 = 52) (hf : -52 ≤ f) :
    ∃ place, Reaches (s * t) place
      (UnpackedFloat.mul .binary64 (.finite s m e hm) (.finite t n f hn)) := by
  have hprod := le_log2_mul hm hn
  have hplace : -1074 ≤ ((m * n).log2 : Int) + (e + f) := by
    have := hx.least
    omega
  exact ⟨_, reaches_roundWithAccuracy (s * t) (Nat.mul_pos hm hn) hplace (.inl (by omega)) .exact⟩

section
variable {x y d : Float} {s t : Sign} {m : Nat} {e : Int} {hm : 0 < m}

theorem isFinite_eq (x : Float) : x.isFinite = x.toModel.unpack.isFinite := rfl

theorem unpack_sub (y x : Float) : (y - x).toModel.unpack =
    (Float.Model.pack (UnpackedFloat.sub .binary64 y.toModel.unpack x.toModel.unpack)).unpack := rfl

theorem unpack_div (d x : Float) : (d / x).toModel.unpack =
    (Float.Model.pack (UnpackedFloat.div .binary64 d.toModel.unpack x.toModel.unpack)).unpack := rfl

theorem unpack_mul (x y : Float) : (x * y).toModel.unpack =
    (Float.Model.pack (UnpackedFloat.mul .binary64 x.toModel.unpack y.toModel.unpack)).unpack := rfl

theorem unpack_pack_notANumber : (Float.Model.pack .notANumber).unpack = .notANumber := by
  with_unfolding_all rfl

theorem unpack_pack_infinity (s : Sign) :
    (Float.Model.pack (.infinity s)).unpack = .infinity s := by
  cases s <;> with_unfolding_all rfl

theorem unpack_pack_zero (s : Sign) : (Float.Model.pack (.zero s)).unpack = .zero s := by
  cases s <;> with_unfolding_all rfl

theorem exists_unpack_finite (hfinite : x.isFinite = true) (hzero : (x == 0.0) = false) :
    ∃ s m e, ∃ hm : 0 < m, x.toModel.unpack = .finite s m e hm := by
  rw [isFinite_eq] at hfinite
  cases hu : x.toModel.unpack with
  | notANumber | infinity =>
    rw [hu] at hfinite
    cases hfinite
  | zero s =>
    have hsame : (x == 0.0) = true :=
      beq_iff.mpr ⟨.zero .positive, by rw [hu]; rfl, by with_unfolding_all rfl⟩
    rw [hsame] at hzero
    cases hzero
  | finite s m e hm => exact ⟨s, m, e, hm, rfl⟩

/-- What is not finite stays so in an operation that keeps it so. -/
theorem isFinite_of_pack {f : UnpackedFloat → UnpackedFloat} {u : UnpackedFloat}
    (hnone : f .notANumber = .notANumber) (hinfinite : ∀ s, ∃ t, f (.infinity s) = .infinity t)
    (h : (Float.Model.pack (f u)).unpack.isFinite = true) : u.isFinite = true := by
  cases u with
  | notANumber =>
    rw [hnone, unpack_pack_notANumber] at h
    cases h
  | infinity s =>
    obtain ⟨t, ht⟩ := hinfinite s
    rw [ht, unpack_pack_infinity] at h
    cases h
  | zero | finite => rfl

theorem isFinite_of_sub (hx : x.toModel.unpack = .finite s m e hm)
    (h : (y - x).isFinite = true) : y.isFinite = true := by
  rw [isFinite_eq, unpack_sub, hx] at h
  exact isFinite_of_pack (f := (UnpackedFloat.sub .binary64 · (.finite s m e hm))) rfl
    (fun t => ⟨t, rfl⟩) h

theorem isFinite_of_div (hx : x.toModel.unpack = .finite s m e hm)
    (h : (d / x).isFinite = true) : d.isFinite = true := by
  rw [isFinite_eq, unpack_div, hx] at h
  exact isFinite_of_pack (f := (UnpackedFloat.div .binary64 · (.finite s m e hm))) rfl
    (fun t => ⟨t / s, rfl⟩) h

theorem Reaches.unpack_of_isFinite {place : Int} {u : UnpackedFloat} (h : Reaches s place u)
    (hfinite : (Float.Model.pack u).unpack.isFinite = true) : (Float.Model.pack u).unpack = u := by
  rcases h.unpack_pack with hu | hu
  · rw [hu] at hfinite
    cases hfinite
  · exact hu

/-- The sign of a quotient in percent, if the dividend is not much smaller than the divisor. -/
theorem sign?_percent (hx : x.toModel.unpack = .finite s m e hm)
    (hd : Reaches t (m.log2 + e - 53) d.toModel.unpack) (hfinite : (d / x).isFinite = true) :
    sign? (d / x * ofInt 100).toModel.unpack = some (t / s) := by
  have hform := canonical_of_unpack hx
  rw [unpack_mul, unpack_hundred]
  rw [isFinite_eq, unpack_div, hx] at hfinite
  rw [unpack_div, hx]
  generalize d.toModel.unpack = u at hd hfinite ⊢
  obtain ⟨hn, hform', hplace⟩ := hd
  obtain ⟨place, hquotient⟩ := reaches_div (s := s) (t := t) hm hn hform hform' hplace
  rw [hquotient.unpack_of_isFinite hfinite]
  generalize UnpackedFloat.div .binary64 _ _ = q at hquotient ⊢
  obtain ⟨hq, hform'', -⟩ := hquotient
  obtain ⟨place', hproduct⟩ := reaches_mul (s := t / s) (t := .positive) (f := -46) hq
    (by decide : 0 < 0x19000000000000) hform'' (by decide) (by decide)
  rw [hproduct.sign?_pack]
  cases s <;> cases t <;> rfl

theorem sign?_percent_zero {z : Sign} (hx : x.toModel.unpack = .finite s m e hm)
    (hd : d.toModel.unpack = .zero z) : sign? (d / x * ofInt 100).toModel.unpack = none := by
  rw [unpack_mul, unpack_hundred, unpack_div, hx, hd]
  change sign? (Float.Model.pack (UnpackedFloat.mul .binary64
    (Float.Model.pack (.zero (z / s))).unpack _)).unpack = none
  rw [unpack_pack_zero]
  change sign? (Float.Model.pack (.zero _)).unpack = none
  rw [unpack_pack_zero]
  rfl

/-- The sign of a change in percent is that of the order of the two doubles, turned round if the
first one is negative. -/
theorem sign?_growth (hx : x.toModel.unpack = .finite s m e hm)
    (hfinite : ((y - x) / x).isFinite = true) :
    (x < y ∧ sign? ((y - x) / x * ofInt 100).toModel.unpack = some (.positive / s)) ∨
      (y < x ∧ sign? ((y - x) / x * ofInt 100).toModel.unpack = some (.negative / s)) ∨
      (¬x < y ∧ ¬y < x ∧ sign? ((y - x) / x * ofInt 100).toModel.unpack = none) := by
  have hd : (y - x).isFinite = true := isFinite_of_div hx hfinite
  have hy : y.isFinite = true := isFinite_of_sub hx hd
  rw [isFinite_eq, unpack_sub] at hd
  rcases sub_cases hx hy with ⟨hlt, hreaches⟩ | ⟨hgt, hreaches⟩ | ⟨hlt, hgt, z, hzero⟩
  · have hkept := hreaches.unpack_of_isFinite hd
    rw [← hkept] at hreaches
    exact .inl ⟨hlt, sign?_percent hx hreaches hfinite⟩
  · have hkept := hreaches.unpack_of_isFinite hd
    rw [← hkept] at hreaches
    exact .inr (.inl ⟨hgt, sign?_percent hx hreaches hfinite⟩)
  · refine .inr (.inr ⟨hlt, hgt, sign?_percent_zero (z := z) hx ?_⟩)
    rw [unpack_sub, hzero, unpack_pack_zero]

end

end SalesDesk.Number
