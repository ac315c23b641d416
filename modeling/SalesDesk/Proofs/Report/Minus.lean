import SalesDesk.Proofs.Report.FigureTexts

/-!
Figures with a minus. A minus belongs before what is shown of a double exactly if the double is
below zero and does not come down to zero with the places that it is shown with. Quantities keep to
this. A currency has a minus for every double below zero, and a percentage for every double with the
bit of the sign, so that both also show a zero with a minus.
-/
namespace SalesDesk

namespace Number

theorem IsNearestEven.eq_zero_iff {q : ℚ} {n : ℕ} (h : IsNearestEven q n) :
    n = 0 ↔ q ≤ 1 / 2 := by
  have hnear := abs_le.mp h.near
  constructor
  · rintro rfl
    have hle := hnear.2
    rwa [Nat.cast_zero, sub_zero] at hle
  · intro hle
    have hone : (n : ℚ) ≤ 1 := by linarith
    have hcases : n = 0 ∨ n = 1 := Nat.le_one_iff_eq_zero_or_eq_one.mp (by exact_mod_cast hone)
    rcases hcases with hzero | rfl
    · exact hzero
    · -- the number is one only for a half, which goes to the even neighbour
      have hhalf : |q - (1 : ℕ)| = 1 / 2 := by
        rw [abs_of_nonpos] <;> push_cast at hnear ⊢ <;> linarith
      exact absurd (h.even hhalf) (by decide)

/-- Below zero are the doubles with the bit of the sign, but for the zero that has it. -/
theorem lt_zero_iff_signed {x : Float} (h : x.isFinite = true) :
    x < 0 ↔ signed x = true ∧ 0 < (magnitude x).toRat := by
  rw [lt_literal_zero_iff, lt_zero_iff]
  change x.toModel.unpack.isFinite = true at h
  cases hu : x.toModel.unpack with
  | notANumber | infinity =>
    rw [hu] at h
    cases h
  | zero s =>
    have htells := tells_unpack x
    rw [hu] at htells
    have hsize : (magnitude x).toRat = 0 := by
      rw [show magnitude x = ⟨0, -1074⟩ from htells, Magnitude.toRat, Nat.cast_zero, zero_mul]
    rw [hsize]
    exact iff_of_false (fun hnone => Option.some_ne_none _ hnone.symm) fun hless =>
      lt_irrefl _ hless.2
  | finite s m e hm =>
    obtain ⟨hmagnitude, hsigned⟩ := magnitude_of_unpack hu
    have hpos : 0 < (magnitude x).toRat := by
      rw [hmagnitude, Magnitude.toRat]
      exact mul_pos (by exact_mod_cast hm) (zpow_pos two_pos e)
    rw [hsigned, and_iff_left hpos]
    exact Option.some_inj

end Number

namespace Format

open SalesDesk.Number

/-- How many places a figure is shown with. -/
def Kind.places : Kind → ℕ
  | .currency | .decimalQuantity | .percent => 2
  | .quantity | .count | .day => 0

/-- So many units of the last place as a text: a minus or none before the symbol, the digits, in
groups unless they are a percentage, and the unit. -/
inductive ShowsUnits (s : Style) (minus : Bool) (n : ℕ) : Kind → List Char → Prop
  | grouped {kind : Kind} {text : List Char} (hkind : kind ≠ .percent)
    (form : Grouped s.grouping.size (fixedText kind.places n) text) :
    ShowsUnits s minus n kind
      ((if minus then ['-'] else []) ++ (kind.symbol s).toList ++ text ++ (kind.suffix s).toList)
  | percent : ShowsUnits s minus n .percent
      ((if minus then ['-'] else []) ++ fixedText 2 n ++ ['%'])

/-- The text shows the size of the double, rounded to the places of the kind, with a minus or
without. -/
def ShowsSize (s : Style) (kind : Kind) (x : Float) (minus : Bool) (text : List Char) : Prop :=
  ∃ n, IsNearestEven ((magnitude x).toRat * 10 ^ kind.places) n ∧ ShowsUnits s minus n kind text

/-- The text shows the double with a minus exactly if the double is below zero and the number that
is shown is not zero. -/
def ShowsSign (s : Style) (kind : Kind) (x : Float) (text : List Char) : Prop :=
  ∃ minus n, IsNearestEven ((magnitude x).toRat * 10 ^ kind.places) n ∧
    ShowsUnits s minus n kind text ∧ (minus = true ↔ x < 0 ∧ n ≠ 0)

/-! The minus of a text can be told from the number of minuses in it. -/

theorem minus_not_mem_fixedText (places n : ℕ) : '-' ∉ fixedText places n := by
  obtain ⟨hwhole, hfraction⟩ := isDigit_fixedParts places n
  have hdigits {ds : List Char} (h : ∀ c ∈ ds, c.isDigit = true) : '-' ∉ ds := fun hc =>
    absurd (h '-' hc) (by decide)
  unfold fixedText joinPoint
  split
  · exact hdigits hwhole
  · rw [List.mem_append, List.mem_cons, not_or, not_or]
    exact ⟨hdigits hwhole, by decide, hdigits hfraction⟩

theorem Grouped.minus_not_mem {size places n : ℕ} {text : List Char}
    (h : Grouped size (fixedText places n) text) : '-' ∉ text := fun hc =>
  minus_not_mem_fixedText places n (h.filter ▸ List.mem_filter.mpr ⟨hc, by decide⟩)

section
variable {s : Style} {kind : Kind} {x : Float} {minus : Bool} {text : List Char}

/-- All minuses but the one of the figure are those of the symbol and the unit. -/
theorem ShowsUnits.count_minus {n : ℕ} (h : ShowsUnits s minus n kind text) :
    text.count '-' = (if minus then 1 else 0) + (kind.symbol s).toList.count '-' +
      (kind.suffix s).toList.count '-' := by
  have hsign : (if minus then ['-'] else []).count '-' = if minus then 1 else 0 := by
    cases minus <;> rfl
  cases h with
  | grouped hkind form =>
    simp only [List.count_append, hsign, List.count_eq_zero_of_not_mem form.minus_not_mem,
      Nat.add_zero]
  | percent =>
    simp only [List.count_append, hsign,
      List.count_eq_zero_of_not_mem (minus_not_mem_fixedText 2 n)]
    rfl

theorem ShowsUnits.minus_unique {minus' : Bool} {n n' : ℕ} (h : ShowsUnits s minus n kind text)
    (h' : ShowsUnits s minus' n' kind text) : minus = minus' := by
  have hcount := h.count_minus
  rw [h'.count_minus] at hcount
  cases minus <;> cases minus' <;> simp at hcount ⊢

/-- Whether the minus of a text is right depends on the size alone that the double has. -/
theorem ShowsSize.showsSign_iff (h : ShowsSize s kind x minus text) : ShowsSign s kind x text ↔
    (minus = true ↔ x < 0 ∧ 1 / 2 < (magnitude x).toRat * 10 ^ kind.places) := by
  have hshown {n : ℕ} (hn : IsNearestEven ((magnitude x).toRat * 10 ^ kind.places) n) :
      n ≠ 0 ↔ 1 / 2 < (magnitude x).toRat * 10 ^ kind.places := by
    rw [ne_eq, hn.eq_zero_iff, not_le]
  obtain ⟨n, hn, hunits⟩ := h
  constructor
  · rintro ⟨minus', n', hn', hunits', hright⟩
    rw [hunits.minus_unique hunits', hright, hshown hn']
  · intro hright
    exact ⟨minus, n, hn, hunits, by rw [hright, hshown hn]⟩

/-- With two places a minus is wrong exactly before half a unit of the last one at most. -/
theorem ShowsSize.showsSign_iff_of_cents (h : ShowsSize s kind x minus text)
    (hplaces : kind.places = 2) (hminus : x < 0 ↔ minus = true ∧ 0 < (magnitude x).toRat) :
    ShowsSign s kind x text ↔ ¬(minus = true ∧ (magnitude x).toRat ≤ 1 / 200) := by
  have hcents : 1 / 2 < (magnitude x).toRat * 10 ^ 2 ↔ ¬(magnitude x).toRat ≤ 1 / 200 := by
    rw [not_le]
    constructor <;> intro hless <;> linarith
  rw [h.showsSign_iff, hplaces, hcents, hminus]
  by_cases hsmall : (magnitude x).toRat ≤ 1 / 200
  · simp only [hsmall, not_true_eq_false, and_false, and_true, iff_false]
  · have hpos : 0 < (magnitude x).toRat := by linarith
    simp only [hsmall, hpos, not_false_eq_true, and_true, and_false]

end

theorem of_figure?_count {n : ℤ} {x : Float} (h : figure? (.count n) = .ok (some x)) :
    x.isFinite = true ∧ (x < 0 ↔ n < 0) := by
  by_cases hn : n.natAbs < overflow
  · obtain ⟨y, hy, hfinite, hsign⟩ := exists_figure (v := .count n) hn
    rw [hy] at h
    cases h
    exact ⟨hfinite, decide_eq_decide.mp hsign⟩
  · have hnone := (ofInt?_eq_none_iff n).mpr (Nat.not_lt.mp hn)
    rw [figure?, ofInt, hnone] at h
    cases h

theorem isFinite_of_figure? {v : Cell Float} {x : Float} (h : figure? v = .ok (some x)) :
    x.isFinite = true := by
  cases v with
  | absent | day => cases h
  | figure y =>
    by_cases hfinite : y.isFinite = true
    · rw [figure?, if_pos hfinite] at h
      cases h
      exact hfinite
    · rw [figure?, if_neg hfinite] at h
      cases h
  | count n => exact (of_figure?_count h).1
  | text t => exact (Option.filter_eq_some_iff.mp (Except.ok.inj h)).2
  | given v =>
    cases v with
    | bool b =>
      cases h
      cases b <;> with_unfolding_all rfl
    | _ => cases h

section
variable (s : Style) {x : Float}

theorem showsSign_finite (kind : Kind) (hkind : kind ≠ .percent) (hsymbol : kind.symbol s = "")
    (h : x.isFinite = true) :
    ShowsSign s kind x (finite s.grouping kind.places x ++ kind.suffix s).toList := by
  obtain ⟨n, hn, hgrouped, -, hshows⟩ := exists_units s.grouping kind.places h
  have hunits : ShowsUnits s (decide (x < 0) && showsDigits kind.places x) n kind _ :=
    .grouped hkind hgrouped
  have hright : (decide (x < 0) && showsDigits kind.places x) = true ↔ x < 0 ∧ n ≠ 0 := by
    rw [Bool.and_eq_true, decide_eq_true_iff, hshows]
  refine ⟨_, n, hn, ?_, hright⟩
  rw [hsymbol, String.toList_empty, List.append_nil] at hunits
  rwa [finite, String.toList_append, String.toList_append, toList_sign]

theorem showsSize_currency (h : x.isFinite = true) : ShowsSize s .currency x (x < 0)
    ((if x < 0 then "-" else "") ++ s.symbol ++ size s.grouping 2 x).toList := by
  obtain ⟨n, hn, hgrouped, -, -⟩ := exists_units s.grouping 2 h
  have hunits : ShowsUnits s (decide (x < 0)) n .currency _ := .grouped (by simp) hgrouped
  refine ⟨n, hn, ?_⟩
  simpa [Kind.symbol, Kind.suffix, toList_sign] using hunits

theorem showsSize_percent (h : x.isFinite = true) : ShowsSize s .percent x (signed x)
    ((if signed x then "-" else "") ++
      String.ofList (joinPoint (sizeDigits x 2).1 (sizeDigits x 2).2) ++ "%").toList := by
  obtain ⟨n, hn, -, hdigits, -⟩ := exists_units s.grouping 2 h
  refine ⟨n, hn, ?_⟩
  rw [hdigits, String.toList_append, String.toList_append, String.toList_ofList, toList_sign]
  exact .percent

end

/-- A finite value is shown as a quantity, whole or with two places, with a minus exactly if it is
below zero and the number that is shown is not zero. As a currency it has a minus for being below
zero, and as a percentage for the bit of the sign; this is the same but for the sizes up to half a
hundredth, which are shown as zero. A text is no amount. -/
theorem signs_shown_iff (s : Style) {v : Cell Float} {x : Float}
    (hx : figure? v = .ok (some x)) :
    (∀ n, v = .count n → (x < 0 ↔ n < 0)) ∧
      Gives (quantity s v) (fun t => ShowsSign s .quantity x t.toList) ∧
      Gives (decimalQuantity s v) (fun t => ShowsSign s .decimalQuantity x t.toList) ∧
      ((∀ text, v ≠ .text text) → Gives (currency s v) fun t =>
        ShowsSize s .currency x (x < 0) t.toList ∧
        (ShowsSign s .currency x t.toList ↔ ¬(x < 0 ∧ (magnitude x).toRat ≤ 1 / 200))) ∧
      Gives (percent v) fun t =>
        ShowsSize s .percent x (signed x) t.toList ∧
        (ShowsSign s .percent x t.toList ↔ ¬(signed x = true ∧ (magnitude x).toRat ≤ 1 / 200)) := by
  have hfinite := isFinite_of_figure? hx
  have hbelow := lt_zero_iff_signed hfinite
  have hcurrency := showsSize_currency s hfinite
  have hpercent := showsSize_percent s hfinite
  refine ⟨?_, ?_, ?_, ?_, ?_⟩
  · rintro n rfl
    exact (of_figure?_count hx).2
  · have hshown : quantity s v = .ok (finite s.grouping 0 x ++ s.unitSuffix) := by
      rw [quantity, hx]
      rfl
    exact ⟨_, hshown, showsSign_finite s .quantity (by simp) rfl hfinite⟩
  · have hshown : decimalQuantity s v = .ok (finite s.grouping 2 x ++ s.unitSuffix) := by
      rw [decimalQuantity, hx]
      rfl
    exact ⟨_, hshown, showsSign_finite s .decimalQuantity (by simp) rfl hfinite⟩
  · intro hamount
    have hshown : currency s v =
        .ok ((if x < 0 then "-" else "") ++ s.symbol ++ size s.grouping 2 x) := by
      unfold currency
      rw [hx]
      cases v with
      | text t => exact absurd rfl (hamount t)
      | _ => rfl
    have hsame : x < 0 ↔ decide (x < 0) = true ∧ 0 < (magnitude x).toRat := by
      rw [decide_eq_true_iff, hbelow, and_assoc, and_self_iff]
    have hright := hcurrency.showsSign_iff_of_cents rfl hsame
    rw [decide_eq_true_iff] at hright
    exact ⟨_, hshown, hcurrency, hright⟩
  · have hshown : percent v = .ok ((if signed x then "-" else "") ++
        String.ofList (joinPoint (sizeDigits x 2).1 (sizeDigits x 2).2) ++ "%") := by
      rw [percent, hx]
      rfl
    exact ⟨_, hshown, hpercent, hpercent.showsSign_iff_of_cents rfl hbelow⟩

/-- Of a loss below half a hundredth only the quantity has no minus. -/
theorem signs_shown_iff_loss : figure? (.figure (-0.004)) = .ok (some (-0.004)) ∧
    Gives (decimalQuantity {} (.figure (-0.004))) (fun t =>
      ShowsSign {} .decimalQuantity (-0.004) t.toList) ∧
    Gives (currency {} (.figure (-0.004))) (fun t => ¬ShowsSign {} .currency (-0.004) t.toList) ∧
    Gives (percent (.figure (-0.004))) (fun t => ¬ShowsSign {} .percent (-0.004) t.toList) := by
  have hx : figure? (.figure (-0.004)) = .ok (some (-0.004)) := by with_unfolding_all rfl
  have hmagnitude : magnitude (-0.004) = ⟨4611686018427388, -60⟩ := by with_unfolding_all rfl
  have hsmall : (magnitude (-0.004)).toRat ≤ 1 / 200 := by
    rw [hmagnitude, Magnitude.toRat]
    norm_num
  have hbelow : (-0.004 : Float) < 0 := by with_unfolding_all decide
  have hsigned : signed (-0.004) = true := by with_unfolding_all rfl
  obtain ⟨-, -, hquantity, hcurrency, hpercent⟩ := signs_shown_iff {} hx
  refine ⟨hx, hquantity, (hcurrency (by simp)).mono fun t ht => ?_, hpercent.mono fun t ht => ?_⟩
  · exact fun hright => ht.2.mp hright ⟨hbelow, hsmall⟩
  · exact fun hright => ht.2.mp hright ⟨hsigned, hsmall⟩

/-- The quantity of a tenth of a hundredth is shown as zero, and its currency and percentage as a
zero with a minus. -/
theorem zero_shown_with_minus :
    decimalQuantity {} (.figure (-0.001)) = .ok "0.00 units" ∧
      currency {} (.figure (-0.001)) = .ok "-₹0.00" ∧
      percent (.figure (-0.001)) = .ok "-0.00%" := by
  refine ⟨?_, ?_, ?_⟩ <;> with_unfolding_all rfl

end Format

end SalesDesk
