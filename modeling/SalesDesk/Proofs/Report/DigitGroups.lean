import SalesDesk.Proofs.Number.Fixed
import SalesDesk.Proofs.Text.Separated
import SalesDesk.Report.Format

/-!
Numbers in groups: commas between the groups are all that a number gains over its text with a fixed
number of places.
-/
namespace SalesDesk.Format

open SalesDesk.Number

/-- The groups of a whole part, first one first. Of two or more, the last has three digits and those
between have as many as the grouping says. -/
inductive InGroups (size : ℕ) : List (List Char) → Prop
  | one {ds : List Char} (nonempty : ds ≠ []) (short : ds.length ≤ 3) : InGroups size [ds]
  | more {first last : List Char} {middle : List (List Char)} (nonempty : first ≠ [])
    (short : first.length ≤ size) (full : ∀ ds ∈ middle, ds.length = size)
    (three : last.length = 3) : InGroups size (first :: (middle ++ [last]))

/-- A text with a fixed number of places, and the same with commas between groups. -/
inductive Grouped (size : ℕ) : List Char → List Char → Prop
  | intro {groups : List (List Char)} {fraction : List Char} (form : InGroups size groups)
    (digits : ∀ ds ∈ groups, ∀ c ∈ ds, c.isDigit = true)
    (point : fraction = [] ∨ ∃ ds, fraction = '.' :: ds ∧ ∀ c ∈ ds, c.isDigit = true) :
    Grouped size (groups.flatten ++ fraction) ([','].intercalate groups ++ fraction)

theorem comma_not_mem {ds : List Char} (h : ∀ c ∈ ds, c.isDigit = true) : ',' ∉ ds :=
  fun hc => absurd (h ',' hc) (by decide)

theorem comma_not_mem_fraction {fraction : List Char}
    (h : fraction = [] ∨ ∃ ds, fraction = '.' :: ds ∧ ∀ c ∈ ds, c.isDigit = true) :
    ',' ∉ fraction := by
  obtain rfl | ⟨ds, rfl, hds⟩ := h
  · exact List.not_mem_nil
  · simpa using comma_not_mem hds

/-- Without its commas the text is the one with a fixed number of places. -/
theorem Grouped.filter {size : ℕ} {fixed text : List Char} (h : Grouped size fixed text) :
    text.filter (· != ',') = fixed := by
  obtain ⟨-, digits, point⟩ := h
  have hfraction := comma_not_mem_fraction point
  rw [List.filter_append, Text.filter_intercalate fun ds hds => comma_not_mem (digits ds hds)]
  congr 1
  exact List.filter_eq_self.mpr fun c hc => bne_iff_ne.mpr fun heq => hfraction (heq ▸ hc)

/-- There are commas exactly where the whole part has more than three digits. -/
theorem Grouped.comma_mem_iff {size : ℕ} {fixed text : List Char} (h : Grouped size fixed text) :
    ',' ∈ text ↔ 3 < (fixed.takeWhile (·.isDigit)).length := by
  obtain ⟨form, digits, point⟩ := h
  rename_i groups fraction
  have hwhole : (groups.flatten ++ fraction).takeWhile (·.isDigit) = groups.flatten := by
    have hall : ∀ c ∈ groups.flatten, c.isDigit = true := fun c hc =>
      have ⟨ds, hds, hc⟩ := List.mem_flatten.mp hc
      digits ds hds c hc
    rw [List.takeWhile_append_of_pos hall]
    obtain rfl | ⟨ds, rfl, -⟩ := point <;> simp
  rw [hwhole, List.mem_append, or_iff_left (comma_not_mem_fraction point)]
  cases form with
  | one nonempty short =>
    refine iff_of_false (fun hc => ?_) ?_
    · rw [List.intercalate_singleton] at hc
      exact comma_not_mem (digits _ List.mem_cons_self) hc
    · rw [List.flatten_singleton]
      omega
  | more nonempty short full three =>
    have hfirst := List.length_pos_iff.mpr nonempty
    refine iff_of_true ?_ ?_
    · rw [← List.cons_append, Text.intercalate_concat (by simp)]
      simp
    · simp only [List.flatten_cons, List.flatten_append, List.length_append, List.flatten_nil,
        List.length_nil]
      omega

theorem withCommas_of_le (size : ℕ) {left : ℕ} {ds : List Char} (h : ds.length ≤ left) :
    withCommas size left ds = ds := by
  induction ds generalizing left with
  | nil => rfl
  | cons d rest ih =>
    rw [List.length_cons] at h
    rw [withCommas, if_neg (by omega), ih (by omega)]

/-- A full group, a comma and the digits behind it. -/
theorem withCommas_append {size : ℕ} (hsize : 0 < size) (group : List Char) {rest : List Char}
    (hrest : rest ≠ []) :
    withCommas size group.length (group ++ rest) = group ++ ',' :: withCommas size size rest := by
  induction group with
  | nil =>
    cases rest with
    | nil => exact absurd rfl hrest
    | cons d rest =>
      rw [List.nil_append, List.length_nil, withCommas, if_pos rfl, withCommas, if_neg (by omega)]
      rfl
  | cons d group ih =>
    rw [List.cons_append, List.length_cons, withCommas, if_neg (by omega), Nat.add_sub_cancel, ih]
    rfl

/-- The first digits of a reversed run are its last group, with a comma before it. -/
theorem cut_group {size left : ℕ} (hsize : 0 < size) {ds : List Char} (hlong : left < ds.length)
    {groups : List (List Char)} (hne : groups ≠ [])
    (hflatten : groups.flatten = (ds.drop left).reverse)
    (htext : [','].intercalate groups = (withCommas size size (ds.drop left)).reverse) :
    (ds.take left).reverse.length = left ∧
      (groups ++ [(ds.take left).reverse]).flatten = ds.reverse ∧
      [','].intercalate (groups ++ [(ds.take left).reverse]) =
        (withCommas size left ds).reverse := by
  have htake : (ds.take left).length = left := by
    rw [List.length_take]
    omega
  have hrest : ds.drop left ≠ [] := by
    rw [ne_eq, List.drop_eq_nil_iff]
    omega
  have hcommas := withCommas_append hsize (ds.take left) hrest
  rw [htake, List.take_append_drop] at hcommas
  refine ⟨by rw [List.length_reverse, htake], ?_, ?_⟩
  · rw [List.flatten_append, hflatten, List.flatten_singleton, ← List.reverse_append,
      List.take_append_drop]
  · rw [Text.intercalate_concat hne, htext, hcommas]
    simp

/-- The digits before the last three, last one first: full groups behind a first one that may be
shorter. -/
theorem exists_leading {size : ℕ} (hsize : 0 < size) {ds : List Char} (hne : ds ≠ []) :
    ∃ first middle, first ≠ [] ∧ first.length ≤ size ∧ (∀ group ∈ middle, group.length = size) ∧
      (first :: middle).flatten = ds.reverse ∧
      [','].intercalate (first :: middle) = (withCommas size size ds).reverse := by
  induction hlength : ds.length using Nat.strongRecOn generalizing ds with
  | ind length ih =>
    by_cases hle : ds.length ≤ size
    · refine ⟨ds.reverse, [], by simpa using hne, by simpa using hle, nofun, by simp, ?_⟩
      rw [withCommas_of_le size hle, List.intercalate_singleton]
    · -- The last full group is cut off, and the digits before it are fewer.
      have hless : (ds.drop size).length < length := by
        rw [List.length_drop]
        omega
      have hrest : ds.drop size ≠ [] := by
        rw [ne_eq, List.drop_eq_nil_iff]
        exact hle
      obtain ⟨first, middle, hfirst, hshort, hfull, hflatten, htext⟩ := ih _ hless hrest rfl
      obtain ⟨hlast, hflatten, htext⟩ :=
        cut_group hsize (Nat.not_le.mp hle) (List.cons_ne_nil _ _) hflatten htext
      refine ⟨first, middle ++ [(ds.take size).reverse], hfirst, hshort, ?_, hflatten, htext⟩
      exact List.forall_mem_append.mpr ⟨hfull, List.forall_mem_singleton.mpr hlast⟩

theorem size_pos (g : DigitGrouping) : 0 < g.size := by
  cases g <;> decide

/-- The digits of a whole part are put into groups. -/
theorem exists_groups (g : DigitGrouping) {ds : List Char} (hne : ds ≠ []) :
    ∃ groups, InGroups g.size groups ∧ groups.flatten = ds ∧
      [','].intercalate groups = groupDigits g ds := by
  unfold groupDigits
  by_cases hle : ds.length ≤ 3
  · refine ⟨[ds], .one hne hle, List.flatten_singleton, ?_⟩
    rw [withCommas_of_le _ (by rwa [List.length_reverse]), List.reverse_reverse,
      List.intercalate_singleton]
  · have hlong : 3 < ds.reverse.length := by
      rw [List.length_reverse]
      omega
    have hrest : ds.reverse.drop 3 ≠ [] := by
      rw [ne_eq, List.drop_eq_nil_iff]
      omega
    obtain ⟨first, middle, hfirst, hshort, hfull, hflatten, htext⟩ :=
      exists_leading (size_pos g) hrest
    obtain ⟨hlast, hflatten, htext⟩ :=
      cut_group (size_pos g) hlong (List.cons_ne_nil _ _) hflatten htext
    exact ⟨_, .more hfirst hshort hfull hlast, hflatten.trans ds.reverse_reverse, htext⟩

/-- Does the value have a finite double? -/
def IsFinite : Cell Float → Prop
  | .figure x => x.isFinite = true
  | .count n => n.natAbs < overflow
  | _ => False

def isNegative : Cell Float → Bool
  | .figure x => x < 0
  | .count n => n < 0
  | _ => false

/-- A finite value says a double that has its sign. -/
theorem exists_figure {v : Cell Float} (h : IsFinite v) :
    ∃ x, figure? v = .ok (some x) ∧ x.isFinite = true ∧ decide (x < 0) = isNegative v := by
  cases v with
  | figure x =>
    have hfinite : x.isFinite = true := h
    exact ⟨x, by rw [figure?, if_pos hfinite], hfinite, rfl⟩
  | count n =>
    obtain ⟨hsome, hfinite⟩ := ofInt?_eq_some h
    have hsign : Number.ofInt n < 0 ↔ n < 0 := by
      rw [lt_literal_zero_iff, ofInt_lt_zero_iff]
    refine ⟨Number.ofInt n, ?_, hfinite, decide_eq_decide.mpr hsign⟩
    rw [figure?, ofInt, hsome]
    rfl
  | absent | text | day | given => exact h.elim

/-- A minus where something other than zero is shown of a negative value. -/
def signOf (v : Cell Float) (n : ℕ) : List Char := if isNegative v && n != 0 then ['-'] else []

theorem grouped_size (g : DigitGrouping) (places n : ℕ) :
    Grouped g.size (fixedText places n) (joinPoint (groupDigits g (fixedParts places n).1)
      (fixedParts places n).2) := by
  obtain ⟨groups, form, hflatten, htext⟩ := exists_groups g (fixedParts_ne_nil places n)
  obtain ⟨hwhole, hfraction⟩ := isDigit_fixedParts places n
  have hdigits : ∀ ds ∈ groups, ∀ c ∈ ds, c.isDigit = true := fun ds hds c hc =>
    hwhole c (hflatten ▸ List.mem_flatten.mpr ⟨ds, hds, hc⟩)
  unfold fixedText
  rw [← hflatten] at htext ⊢
  rw [← htext]
  generalize (fixedParts places n).2 = fraction at *
  cases fraction with
  | nil => simpa [joinPoint] using Grouped.intro form hdigits (.inl rfl)
  | cons d rest =>
    have hgrouped := Grouped.intro form hdigits (.inr ⟨d :: rest, rfl, hfraction⟩)
    simpa [joinPoint] using hgrouped

/-- A finite value is written as its text with a fixed number of places in groups, with a minus
before it exactly if the value is negative and that text is not zero. Only commas are gained. -/
theorem number_grouped (g : DigitGrouping) {places : ℕ} (hplaces : places ≤ maxPlaces)
    {v : Cell Float} (h : IsFinite v) :
    ∃ x n text, figure? v = .ok (some x) ∧
      IsNearestEven ((magnitude x).toRat * 10 ^ places) n ∧
      number g places v = .ok (String.ofList (signOf v n ++ text)) ∧
      Grouped g.size (fixedText places n) text ∧
      (',' ∈ text ↔ 3 < ((fixedText places n).takeWhile (·.isDigit)).length) ∧
      (signOf v n ++ text).filter (· != ',') = signOf v n ++ fixedText places n := by
  obtain ⟨x, hx, hfinite, hnegative⟩ := exists_figure h
  obtain ⟨n, hn, hparts⟩ := sizeDigits_eq hfinite places
  have hgrouped := grouped_size g places n
  refine ⟨x, n, _, hx, hn, ?_, hgrouped, hgrouped.comma_mem_iff, ?_⟩
  · have hshows : showsDigits places x = (n != 0) := by
      unfold showsDigits
      simp only [hparts, any_ne_zero_fixedParts]
      by_cases hzero : n = 0 <;> simp [hzero]
    have hallowed : ¬((places : ℤ) < 0 ∨ maxPlaces < places) := by omega
    have hnumber : number g places v = .ok (finite g places x) := by
      unfold number
      rw [hx]
      simp [bind, Except.bind, pure, Except.pure, hallowed]
    rw [hnumber]
    unfold finite size signOf
    simp only [hshows, hnegative, hparts]
    split_ifs <;> simp
  · rw [List.filter_append, hgrouped.filter]
    congr 1
    unfold signOf
    split_ifs <;> rfl

theorem number_grouped_negative :
    (2 : ℤ) ≤ maxPlaces ∧ IsFinite (.count (-1234567)) ∧
      ∃ x n text, figure? (.count (-1234567)) = .ok (some x) ∧
        IsNearestEven ((magnitude x).toRat * 10 ^ 2) n ∧
        number .indian 2 (.count (-1234567)) =
          .ok (String.ofList (signOf (.count (-1234567)) n ++ text)) ∧
        Grouped 2 (fixedText 2 n) text ∧
        (',' ∈ text ↔ 3 < ((fixedText 2 n).takeWhile (·.isDigit)).length) ∧
        (signOf (.count (-1234567)) n ++ text).filter (· != ',') =
          signOf (.count (-1234567)) n ++ fixedText 2 n :=
  have hplaces : (2 : ℤ) ≤ maxPlaces := by decide
  have hfinite : IsFinite (.count (-1234567)) := lt_overflow (by decide)
  ⟨hplaces, hfinite, number_grouped .indian hplaces hfinite⟩

example : number .indian 2 (.count (-1234567)) = .ok "-12,34,567.00" := by with_unfolding_all rfl

example : number .western 0 (.figure (-0.4)) = .ok "0" := by with_unfolding_all rfl

end SalesDesk.Format
