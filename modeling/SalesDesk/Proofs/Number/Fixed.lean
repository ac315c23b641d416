import SalesDesk.Proofs.Number.Digits
import SalesDesk.Proofs.Number.Range
import Mathlib.Algebra.Order.Field.Rat
import Mathlib.Tactic.FieldSimp
import Mathlib.Tactic.Linarith
import Mathlib.Tactic.Positivity
import Mathlib.Tactic.Ring

/-!
What a double is written as with a fixed number of places: the digits of the natural number that is
nearest to its exact size in units of the last place, a half going to the even neighbour, with the
point before as many of them.
-/
namespace SalesDesk.Number

/-- The natural number is nearest to the rational one, and of two nearest ones it is the even. -/
structure IsNearestEven (q : ℚ) (n : ℕ) : Prop where
  near : |q - n| ≤ 1 / 2
  even : |q - n| = 1 / 2 → n % 2 = 0

theorem isNearestEven_of_lt {q : ℚ} {n : ℕ} (h : |q - n| < 1 / 2) : IsNearestEven q n where
  near := le_of_lt h
  even heq := absurd heq (ne_of_lt h)

theorem isNearestEven_natCast (n : ℕ) : IsNearestEven n n := by
  apply isNearestEven_of_lt
  rw [sub_self, abs_zero]
  norm_num

/-- The remainder decides between the quotient and the next number, and in the middle the parity. -/
theorem isNearestEven_roundHalfEven (num : ℕ) {den : ℕ} (hden : 0 < den) :
    IsNearestEven (num / den) (roundHalfEven num den) := by
  have hpos : (0 : ℚ) < den := by exact_mod_cast hden
  have hless : ((num % den : ℕ) : ℚ) < den := by exact_mod_cast Nat.mod_lt num hden
  have hquotient : (num : ℚ) / den = (num / den : ℕ) + (num % den : ℕ) / den := by
    field_simp
    exact_mod_cast (Nat.div_add_mod num den).symm
  have hrest : (0 : ℚ) ≤ ((num % den : ℕ) : ℚ) / den := by positivity
  have hone : ((num % den : ℕ) : ℚ) / den < 1 := (div_lt_one hpos).mpr hless
  rw [hquotient]
  unfold roundHalfEven
  simp only
  generalize num / den = q
  generalize num % den = r at *
  have hdown : |(q : ℚ) + r / den - q| = r / den := by
    rw [add_sub_cancel_left, abs_of_nonneg hrest]
  have hup : |(q : ℚ) + r / den - ((q + 1 : ℕ) : ℚ)| = 1 - r / den := by
    rw [abs_of_nonpos] <;> push_cast <;> linarith
  split_ifs with hlow hhigh
  · apply isNearestEven_of_lt
    rw [hdown, div_lt_div_iff₀ hpos two_pos]
    exact_mod_cast (show r * 2 < 1 * den by omega)
  · have hhalf : 1 / 2 < (r : ℚ) / den := by
      rw [div_lt_div_iff₀ two_pos hpos]
      exact_mod_cast (show 1 * den < r * 2 by omega)
    apply isNearestEven_of_lt
    rw [hup]
    linarith
  · have hhalf : (r : ℚ) / den = 1 / 2 := by
      rw [div_eq_div_iff (ne_of_gt hpos) two_ne_zero]
      exact_mod_cast (show r * 2 = 1 * den by omega)
    rcases Nat.mod_two_eq_zero_or_one q with hq | hq
    · rw [hq, Nat.add_zero]
      exact ⟨by rw [hdown, hhalf], fun _ => hq⟩
    · rw [hq]
      exact ⟨by rw [hup, hhalf]; norm_num, fun _ => by omega⟩

/-- The exact number that a magnitude stands for. -/
def Magnitude.toRat (m : Magnitude) : ℚ := m.significand * 2 ^ m.exponent

theorem Magnitude.quotient_pos (m : Magnitude) : 0 < m.quotient.2 := by
  unfold Magnitude.quotient
  split_ifs
  · exact Nat.one_pos
  · exact Nat.two_pow_pos _

theorem Magnitude.div_quotient (m : Magnitude) :
    (m.quotient.1 : ℚ) / m.quotient.2 = m.toRat := by
  unfold Magnitude.quotient Magnitude.toRat
  split_ifs with h
  · obtain ⟨k, hk⟩ := Int.eq_ofNat_of_zero_le h
    rw [hk]
    simp
  · obtain ⟨k, hk⟩ := Int.eq_ofNat_of_zero_le (show 0 ≤ -m.exponent by omega)
    rw [show m.exponent = -(k : ℤ) by omega]
    simp [div_eq_mul_inv]

/-- The digits of a number of units of the last place, split before as many of them; there is at
least one before the point. -/
def fixedParts (places n : ℕ) : List Char × List Char :=
  let ds := padLeft (places + 1) (digits n)
  (ds.take (ds.length - places), ds.drop (ds.length - places))

theorem padLeft_succ (width n : ℕ) :
    padLeft (width + 2) (digits n) = padLeft (width + 1) (digits (n / 10)) ++
      [Nat.digitChar (n % 10)] := by
  unfold padLeft digits
  by_cases hn : n < 10
  · rw [Nat.toDigits_of_lt_base hn, Nat.div_eq_of_lt hn, Nat.toDigits_zero, Nat.mod_eq_of_lt hn]
    simp [← List.replicate_succ']
  · rw [Nat.toDigits_of_base_le (by decide) (by omega), List.length_append, List.length_singleton,
      ← List.append_assoc]
    congr 2
    congr 1
    omega

/-- The digits before the point and those behind it are written one after the other. -/
theorem padLeft_digits (places n : ℕ) :
    padLeft (places + 1) (digits n) = digits (n / Nat.pow 10 places) ++
      if places = 0 then [] else padLeft places (digits (n % Nat.pow 10 places)) := by
  induction places generalizing n with
  | zero =>
    have hpos : 0 < (digits n).length := Nat.length_toDigits_pos
    have hnone : 1 - (digits n).length = 0 := by omega
    rw [padLeft, hnone]
    simp
  | succ places ih =>
    have hpow : Nat.pow 10 (places + 1) = 10 * Nat.pow 10 places := by
      rw [Nat.mul_comm]
      rfl
    rw [padLeft_succ, ih, hpow, ← Nat.div_div_eq_div_mul, List.append_assoc]
    congr 1
    have hdiv : n % (10 * Nat.pow 10 places) / 10 = n / 10 % Nat.pow 10 places :=
      Nat.mod_mul_right_div_self _ _ _
    have hmod : n % (10 * Nat.pow 10 places) % 10 = n % 10 := Nat.mod_mul_right_mod _ _ _
    rw [if_neg (Nat.succ_ne_zero places), ← hdiv, ← hmod]
    rcases places with _ | places
    · have hlt : n % (10 * Nat.pow 10 0) < 10 := Nat.mod_lt _ (by decide)
      rw [if_pos rfl, digits, Nat.toDigits_of_lt_base hlt, Nat.mod_eq_of_lt hlt]
      rfl
    · rw [if_neg (Nat.succ_ne_zero places), padLeft_succ]

/-- Zeros at the end are zeros behind the digits. -/
theorem padLeft_mul (width n k : ℕ) :
    padLeft (width + 1 + k) (digits (n * Nat.pow 10 k)) =
      padLeft (width + 1) (digits n) ++ List.replicate k '0' := by
  induction k with
  | zero => simp
  | succ k ih =>
    have hpow : n * Nat.pow 10 (k + 1) = n * Nat.pow 10 k * 10 := (Nat.mul_assoc _ _ _).symm
    rw [hpow, show width + 1 + (k + 1) = width + k + 2 by omega, padLeft_succ,
      Nat.mul_div_cancel _ (by decide), Nat.mul_mod_left,
      show width + k + 1 = width + 1 + k by omega, ih, List.replicate_succ', List.append_assoc]
    rfl

theorem length_padLeft_digits (places n : ℕ) :
    places < (padLeft (places + 1) (digits n)).length := by
  rw [padLeft, List.length_append, List.length_replicate]
  omega

theorem fixedParts_eq (places n : ℕ) :
    fixedParts places n = (digits (n / Nat.pow 10 places),
      if places = 0 then [] else padLeft places (digits (n % Nat.pow 10 places))) := by
  have hlength : (if places = 0 then [] else
      padLeft places (digits (n % Nat.pow 10 places))).length = places := by
    split_ifs with h
    · exact h.symm
    · exact length_padLeft (by omega) (Nat.mod_lt _ (Nat.pow_pos (by decide)))
  unfold fixedParts
  rw [padLeft_digits]
  generalize (if places = 0 then [] else
    padLeft places (digits (n % Nat.pow 10 places))) = fraction at *
  have hlengths : (digits (n / Nat.pow 10 places) ++ fraction).length - places =
      (digits (n / Nat.pow 10 places)).length := by
    rw [List.length_append]
    omega
  simp only [hlengths, List.take_left, List.drop_left]

theorem fixedDigits_eq (num den places : ℕ) :
    fixedDigits num den places =
      fixedParts places (roundHalfEven (num * Nat.pow 10 places) den) :=
  (fixedParts_eq places _).symm

/-- A number of units of a place in units of a later one. -/
theorem fixedParts_mul (places n k : ℕ) :
    fixedParts (places + k) (n * Nat.pow 10 k) =
      ((fixedParts places n).1, (fixedParts places n).2 ++ List.replicate k '0') := by
  have hless := length_padLeft_digits places n
  unfold fixedParts
  rw [show places + k + 1 = places + 1 + k by omega, padLeft_mul]
  generalize padLeft (places + 1) (digits n) = ds at *
  have hlength : (ds ++ List.replicate k '0').length - (places + k) = ds.length - places := by
    rw [List.length_append, List.length_replicate]
    omega
  simp only [hlength]
  rw [List.take_append_of_le_length (by omega), List.drop_append_of_le_length (by omega)]

/-- With as many places as bits behind the point, a size is a number of units of the last place. -/
theorem Magnitude.exists_units (m : Magnitude) {places : ℕ} (h : -(places : ℤ) ≤ m.exponent) :
    ∃ n, m.quotient.1 * Nat.pow 10 places = n * m.quotient.2 := by
  unfold Magnitude.quotient
  split_ifs
  · exact ⟨_, (Nat.mul_one _).symm⟩
  · obtain ⟨k, hk⟩ : ∃ k, places = (-m.exponent).toNat + k := Nat.exists_eq_add_of_le (by omega)
    generalize (-m.exponent).toNat = bits at hk
    refine ⟨m.significand * (Nat.pow 5 bits * Nat.pow 10 k), ?_⟩
    have hadd : Nat.pow 10 (bits + k) = Nat.pow 10 bits * Nat.pow 10 k := Nat.pow_add 10 bits k
    have htwo : Nat.pow 10 bits = Nat.pow 2 bits * Nat.pow 5 bits := Nat.mul_pow 2 5 bits
    rw [hk, hadd, htwo]
    ring

theorem roundHalfEven_mul (n : ℕ) {den : ℕ} (hden : 0 < den) : roundHalfEven (n * den) den = n := by
  unfold roundHalfEven
  simp [Nat.mul_div_cancel n hden, hden]

/-- The digits of a double with so many places are those of the nearest number of units. -/
theorem sizeDigits_eq {x : Float} (h : x.isFinite = true) (places : ℕ) :
    ∃ n : ℕ, IsNearestEven ((magnitude x).toRat * 10 ^ places) n ∧
      sizeDigits x places = fixedParts places n := by
  have hpos := (magnitude x).quotient_pos
  have hden : ((magnitude x).quotient.2 : ℚ) ≠ 0 := by exact_mod_cast Nat.ne_of_gt hpos
  have hunits (places : ℕ) : (magnitude x).toRat * 10 ^ places =
      ((magnitude x).quotient.1 * Nat.pow 10 places : ℕ) / (magnitude x).quotient.2 := by
    rw [← Magnitude.div_quotient, Nat.pow_eq]
    push_cast
    ring
  unfold sizeDigits
  simp only [fixedDigits_eq]
  rcases Nat.le_total places exactPlaces with hle | hle
  · rw [Nat.min_eq_left hle, Nat.sub_eq_zero_of_le hle, hunits]
    simp only [List.replicate_zero, List.append_nil]
    exact ⟨_, isNearestEven_roundHalfEven _ hpos, rfl⟩
  · -- The size is exact with fewer places already, and zeros follow.
    obtain ⟨k, rfl⟩ := Nat.exists_eq_add_of_le hle
    obtain ⟨n, hn⟩ : ∃ n, (magnitude x).quotient.1 * Nat.pow 10 exactPlaces =
        n * (magnitude x).quotient.2 := (magnitude x).exists_units (magnitude_bounds h).2.1
    refine ⟨n * Nat.pow 10 k, ?_, ?_⟩
    · have hexact : (magnitude x).toRat * 10 ^ (exactPlaces + k) = (n * Nat.pow 10 k : ℕ) := by
        rw [pow_add, ← mul_assoc, hunits, hn, Nat.pow_eq]
        push_cast
        field_simp
      rw [hexact]
      exact isNearestEven_natCast _
    · rw [Nat.min_eq_right hle, hn, roundHalfEven_mul n hpos, Nat.add_sub_cancel_left,
        fixedParts_mul]

/-- The digits of a number of units of the last place, with the point before as many of them. -/
def fixedText (places n : ℕ) : List Char :=
  joinPoint (fixedParts places n).1 (fixedParts places n).2

theorem append_fixedParts (places n : ℕ) :
    (fixedParts places n).1 ++ (fixedParts places n).2 = padLeft (places + 1) (digits n) :=
  List.take_append_drop _ _

theorem isDigit_fixedParts (places n : ℕ) :
    (∀ c ∈ (fixedParts places n).1, c.isDigit = true) ∧
      ∀ c ∈ (fixedParts places n).2, c.isDigit = true := by
  have hall : ∀ c ∈ padLeft (places + 1) (digits n), c.isDigit = true := isDigit_padLeft
  rw [← append_fixedParts] at hall
  exact List.forall_mem_append.mp hall

theorem fixedParts_ne_nil (places n : ℕ) : (fixedParts places n).1 ≠ [] := by
  rw [fixedParts_eq]
  exact Nat.toDigits_ne_nil

theorem any_ne_zero_fixedParts (places n : ℕ) :
    ((fixedParts places n).1 ++ (fixedParts places n).2).any (· != '0') = decide (n ≠ 0) := by
  rw [append_fixedParts]
  by_cases hn : n = 0
  · subst hn
    rw [decide_eq_false (by simp)]
    apply List.any_eq_false.mpr
    intro c hc
    rcases List.mem_append.mp hc with hc | hc
    · simp [(List.mem_replicate.mp hc).2]
    · simpa [digits] using hc
  · rw [decide_eq_true hn]
    by_contra hall
    have hzeros : ∀ c ∈ padLeft (places + 1) (digits n), c = '0' := by simpa using hall
    have hvalue := digitsToNat_padLeft (places + 1) n
    rw [List.eq_replicate_of_mem hzeros, digitsToNat_eq, Nat.ofDigitChars_replicate_zero] at hvalue
    exact hn (by simpa using hvalue.symm)

end SalesDesk.Number
