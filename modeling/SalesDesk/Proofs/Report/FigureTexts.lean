import SalesDesk.Proofs.Report.DigitGroups
import SalesDesk.Proofs.Report.Writable

/-!
Texts of figures: a sign, the symbol, digits with an optional fraction and the unit, or the word for
what is missing. No other text is made of a number, so that none shows an infinity or no number.
-/
namespace SalesDesk.Format

open SalesDesk.Number

def IsNumeric : Cell Float → Prop
  | .absent | .figure _ => True
  | .count n => n.natAbs < overflow
  | _ => False

/-- Can the value be shown under the name? Figures must be numbers; in other values all integers
must be short enough to be written. -/
def IsShowable (name : String) (v : Cell Float) : Prop :=
  match kinds.lookup (stem name) with
  | none | some .day => (valueOf v).holdsLongInteger = false
  | some _ => IsNumeric v

def Kind.symbol (s : Style) : Kind → String
  | .currency => s.symbol
  | _ => ""

def Kind.suffix (s : Style) : Kind → String
  | .quantity | .decimalQuantity => s.unitSuffix
  | _ => ""

/-- The text of a figure. What has no finite double is shown as missing; else there are digits with
an optional fraction, in groups unless they are a percentage. -/
inductive ShownAs (s : Style) (v : Cell Float) : Kind → List Char → Prop
  | missing {kind : Kind} (h : ¬IsFinite v) : ShownAs s v kind missing.toList
  | grouped {kind : Kind} {sign fixed text : List Char} (h : IsFinite v) (hkind : kind ≠ .percent)
    (hsign : sign = [] ∨ sign = ['-']) (form : Grouped s.grouping.size fixed text) :
    ShownAs s v kind (sign ++ (kind.symbol s).toList ++ text ++ (kind.suffix s).toList)
  | percent {sign fixed text : List Char} (h : IsFinite v) (hsign : sign = [] ∨ sign = ['-'])
    (form : Grouped s.grouping.size fixed text) : ShownAs s v .percent (sign ++ fixed ++ ['%'])

theorem gives_figure {v : Cell Float} (h : IsNumeric v) :
    Gives (figure? v) fun found => (found = none ∧ ¬IsFinite v) ∨
      ∃ x, found = some x ∧ x.isFinite = true ∧ IsFinite v := by
  cases v with
  | absent => exact gives_ok (.inl ⟨rfl, id⟩)
  | figure x =>
    by_cases hx : x.isFinite = true
    · exact ⟨some x, by rw [figure?, if_pos hx], .inr ⟨x, rfl, hx, hx⟩⟩
    · exact ⟨none, by rw [figure?, if_neg hx], .inl ⟨rfl, hx⟩⟩
  | count n =>
    obtain ⟨x, hx, hfinite, -⟩ := exists_figure (v := .count n) h
    exact ⟨some x, hx, .inr ⟨x, rfl, hfinite, h⟩⟩
  | text | day | given => exact h.elim

theorem toList_sign (p : Prop) [Decidable p] :
    (if p then "-" else "").toList = if p then ['-'] else [] := by
  split <;> rfl

theorem exists_units (g : DigitGrouping) (places : ℕ) {x : Float} (h : x.isFinite = true) :
    ∃ n, IsNearestEven ((magnitude x).toRat * 10 ^ places) n ∧
      Grouped g.size (fixedText places n) (size g places x).toList ∧
      String.ofList (joinPoint (sizeDigits x places).1 (sizeDigits x places).2) =
        String.ofList (fixedText places n) ∧
      (showsDigits places x = true ↔ n ≠ 0) := by
  obtain ⟨n, hn, hparts⟩ := sizeDigits_eq h places
  refine ⟨n, hn, ?_, by rw [hparts, fixedText], ?_⟩
  · rw [size, hparts, String.toList_ofList]
    exact grouped_size g places n
  · unfold showsDigits
    simp only [hparts, any_ne_zero_fixedParts, decide_eq_true_iff]

variable {s : Style} {v : Cell Float}

theorem shownAs_finite {kind : Kind} {x : Float} (places : ℕ) (his : IsFinite v)
    (hfinite : x.isFinite = true) (hkind : kind ≠ .percent) (hsymbol : kind.symbol s = "") :
    ShownAs s v kind (finite s.grouping places x ++ kind.suffix s).toList := by
  obtain ⟨n, -, hgrouped, -, -⟩ := exists_units s.grouping places hfinite
  have hshown := ShownAs.grouped (s := s) his hkind
    (ite_eq_or_eq (x < 0 && showsDigits places x) ['-'] []).symm hgrouped
  rw [hsymbol] at hshown
  simpa [finite, toList_sign] using hshown

theorem gives_shown {kind : Kind} {f : Option Float → Except Fault String} (h : IsNumeric v)
    (hnone : f none = .ok missing) (hsome : ∀ x : Float, x.isFinite = true → IsFinite v →
      Gives (f (some x)) fun t => ShownAs s v kind t.toList) :
    Gives (figure? v >>= f) fun t => ShownAs s v kind t.toList := by
  apply (gives_figure h).bind
  rintro _ (⟨rfl, hmissing⟩ | ⟨x, rfl, hfinite, his⟩)
  · exact ⟨missing, hnone, .missing hmissing⟩
  · exact hsome x hfinite his

theorem gives_currency_shown (h : IsNumeric v) :
    Gives (currency s v) fun t => ShownAs s v .currency t.toList := by
  refine gives_shown h rfl fun x hfinite his => ?_
  obtain ⟨n, -, hgrouped, -, -⟩ := exists_units s.grouping 2 hfinite
  have hparts : ShownAs s v .currency ((if x < 0 then ['-'] else []) ++ s.symbol.toList ++
      (size s.grouping 2 x).toList ++ []) :=
    .grouped his (by simp) (ite_eq_or_eq (x < 0) ['-'] []).symm hgrouped
  have hshown : ShownAs s v .currency
      ((if x < 0 then "-" else "") ++ s.symbol ++ size s.grouping 2 x).toList := by
    simpa [toList_sign] using hparts
  cases v with
  | text t => exact h.elim
  | _ => exact gives_ok hshown

theorem gives_quantity_shown (h : IsNumeric v) :
    Gives (quantity s v) fun t => ShownAs s v .quantity t.toList :=
  gives_shown h rfl fun _ hfinite his => gives_ok (shownAs_finite 0 his hfinite (by simp) rfl)

theorem gives_decimalQuantity_shown (h : IsNumeric v) :
    Gives (decimalQuantity s v) fun t => ShownAs s v .decimalQuantity t.toList :=
  gives_shown h rfl fun _ hfinite his => gives_ok (shownAs_finite 2 his hfinite (by simp) rfl)

theorem gives_count_shown (h : IsNumeric v) :
    Gives (count s v) fun t => ShownAs s v .count t.toList := by
  refine gives_shown h rfl fun x hfinite his => ?_
  have hwhole : Gives (wholeOf v x) fun n => n.natAbs < overflow := by
    cases v with
    | count n => exact gives_ok h
    | figure => exact gives_ok (natAbs_integerPart_lt hfinite)
    | absent | text | day | given => exact his.elim
  apply hwhole.bind
  intro n hn
  apply (gives_ofInt hn).map
  intro y hy
  have hshown : ShownAs s v .count (finite s.grouping 0 y ++ "").toList :=
    shownAs_finite 0 his hy (by simp) rfl
  rwa [String.append_empty] at hshown

theorem gives_percent_shown (h : IsNumeric v) :
    Gives (percent v) fun t => ShownAs s v .percent t.toList := by
  refine gives_shown h rfl fun x hfinite his => ?_
  obtain ⟨n, -, hparts⟩ := sizeDigits_eq hfinite 2
  have hshown : ShownAs s v .percent ((if signed x then "-" else "") ++
      String.ofList (joinPoint (sizeDigits x 2).1 (sizeDigits x 2).2) ++ "%").toList := by
    rw [hparts, String.toList_append, String.toList_append, String.toList_ofList, toList_sign]
    exact .percent his (ite_eq_or_eq _ ['-'] []).symm (grouped_size s.grouping 2 n)
  exact ⟨_, rfl, hshown⟩

/-- A showable value has a text under its name, and a figure is shown as one. -/
theorem gives_entry_shown {name : String} (h : IsShowable name v) :
    Gives (entry s name v) fun t => ∀ kind, kinds.lookup (stem name) = some kind → kind ≠ .day →
      ShownAs s v kind t.toList := by
  have hplain (text : String) (hshort : (valueOf v).holdsLongInteger = false) :
      Gives (written v text) fun _ => True :=
    ⟨text, Value.written_of_short hshort text, trivial⟩
  unfold IsShowable at h
  unfold entry
  cases hkind : kinds.lookup (stem name) with
  | none =>
    rw [hkind] at h
    exact (hplain _ h).mono fun _ _ _ hnone => by cases hnone
  | some kind =>
    rw [hkind] at h
    have hshown {x : Except Fault String} (hx : Gives x fun t => ShownAs s v kind t.toList) :
        Gives x fun t => ∀ k, some kind = some k → k ≠ .day → ShownAs s v k t.toList :=
      hx.mono fun t ht k hk _ => Option.some.inj hk ▸ ht
    cases kind with
    | currency => exact hshown (gives_currency_shown h)
    | quantity => exact hshown (gives_quantity_shown h)
    | decimalQuantity => exact hshown (gives_decimalQuantity_shown h)
    | count => exact hshown (gives_count_shown h)
    | percent => exact hshown (gives_percent_shown h)
    | day =>
      refine (hplain _ h).mono fun t _ k hk hday => ?_
      exact absurd (Option.some.inj hk).symm hday

end SalesDesk.Format
