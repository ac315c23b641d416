import SalesDesk.Analysis.Comparisons
import SalesDesk.Proofs.Analysis.Order
import SalesDesk.Proofs.Figure.Growth

/-!
The direction that a trend tells. It is read off a growth over the revenue of the first half, so
that it is the true one only where that revenue is positive and the second half differs from it.
-/
namespace SalesDesk

namespace Date

theorem le_iff (d d' : Date) : d.le d' = true ↔
    d.year < d'.year ∨ d.year = d'.year ∧
      (d.month < d'.month ∨ d.month = d'.month ∧ d.day ≤ d'.day) := by
  simp [le]

theorem le_trans (d d' d'' : Date) (h : d.le d' = true) (h' : d'.le d'' = true) :
    d.le d'' = true := by
  rw [le_iff] at h h' ⊢
  omega

theorem le_total (d d' : Date) : (d.le d' || d'.le d) = true := by
  rw [Bool.or_eq_true, le_iff, le_iff]
  omega

end Date

section
variable {α : Type}

/-- The records in two halves by their days: the first one has no more records than the second,
and records of one day stay in their order. -/
structure Halved (rows before after : List (Record α)) : Prop where
  perm : (before ++ after).Perm rows
  days : (before ++ after).Pairwise fun a b => a.date.le b.date = true
  stable : ∀ a b : Record α, a.date.le b.date = true →
    [a, b].Sublist rows → [a, b].Sublist (before ++ after)
  half : before.length = rows.length / 2

theorem halved_mergeSort (rows : List (Record α)) :
    Halved rows ((rows.mergeSort fun a b => a.date.le b.date).take (rows.length / 2))
      ((rows.mergeSort fun a b => a.date.le b.date).drop (rows.length / 2)) := by
  have htrans : ∀ a b c : Record α, a.date.le b.date = true → b.date.le c.date = true →
      a.date.le c.date = true := fun a b c => Date.le_trans a.date b.date c.date
  have htotal : ∀ a b : Record α, (a.date.le b.date || b.date.le a.date) = true :=
    fun a b => Date.le_total a.date b.date
  constructor
  · rw [List.take_append_drop]
    exact List.mergeSort_perm rows _
  · rw [List.take_append_drop]
    exact List.pairwise_mergeSort htrans htotal rows
  · intro a b hab hsub
    rw [List.take_append_drop]
    exact List.pair_sublist_mergeSort htrans htotal hab hsub
  · rw [List.length_take, List.length_mergeSort]
    omega

variable [Figure α]

/-- Whether the word and the growth tell the direction from one revenue to another. -/
structure Truthful (before after : α) (growth : Option α) (word : String) : Prop where
  increasing : word = "increasing" → Figure.less before after = true
  decreasing : word = "decreasing" → Figure.less after before = true
  positive : ∀ g, growth = some g →
    (Figure.less Figure.zero g = true ↔ Figure.less before after = true)
  negative : ∀ g, growth = some g →
    (Figure.less g Figure.zero = true ↔ Figure.less after before = true)

/-- What the word and the growth of a trend tell: whether the revenue departs from zero, on
whichever side of it the first half is. -/
structure TellsDeparture (before after : α) (growth : Option α) (word : String) : Prop where
  increasing : word = "increasing" ↔ growth.isSome = true ∧ Figure.Departs before after
  decreasing : word = "decreasing" ↔ growth.isSome = true ∧ ¬Figure.Departs before after
  unknown : word = "not comparable" ↔ growth = none
  positive : ∀ g, growth = some g → (Figure.less Figure.zero g = true ↔ Figure.Departs before after)
  negative : ∀ g, growth = some g → (Figure.less g Figure.zero = true ↔ Figure.Returns before after)

theorem tellsDeparture_trendWord [Figure.Signed α] (before after : α) :
    TellsDeparture before after (Figure.growth? before after)
      (trendWord (Figure.growth? before after)) := by
  cases h : Figure.growth? before after with
  | none => exact ⟨by simp [trendWord], by simp [trendWord], by simp [trendWord], nofun, nofun⟩
  | some g =>
    have hpositive := Figure.Signed.growth_pos h
    have hnegative := Figure.Signed.growth_neg h
    rw [trendWord]
    cases hless : Figure.less Figure.zero g with
    | true =>
      have hdeparts := hpositive.mp hless
      exact ⟨by simp [hdeparts], by simp [hdeparts], by simp,
        fun _ hg => Option.some.inj hg ▸ hpositive, fun _ hg => Option.some.inj hg ▸ hnegative⟩
    | false =>
      have hdeparts : ¬Figure.Departs before after := by simp [← hpositive, hless]
      exact ⟨by simp [hdeparts], by simp [hdeparts], by simp,
        fun _ hg => Option.some.inj hg ▸ hpositive, fun _ hg => Option.some.inj hg ▸ hnegative⟩

/-- The direction is the true one exactly if there is none, or the revenue was positive and has
changed. -/
theorem TellsDeparture.truthful_iff [Figure.Ordered α] {before after : α} {growth : Option α}
    {word : String} (h : TellsDeparture before after growth word) :
    Truthful before after growth word ↔ growth = none ∨
      Figure.less Figure.zero before = true ∧
        (Figure.less before after = true ∨ Figure.less after before = true) := by
  have hnot {x y : α} (hxy : Figure.less x y = true) : ¬Figure.less y x = true := by
    simp [Figure.Ordered.asymm x y hxy]
  constructor
  · intro ht
    cases growth with
    | none => exact .inl rfl
    | some g =>
      right
      by_cases hdeparts : Figure.Departs before after
      · have hrises := ht.increasing (h.increasing.mpr ⟨rfl, hdeparts⟩)
        rcases hdeparts with ⟨hpos, -⟩ | ⟨-, hfalls⟩
        · exact ⟨hpos, .inl hrises⟩
        · exact absurd hfalls (hnot hrises)
      · have hfalls := ht.decreasing (h.decreasing.mpr ⟨rfl, hdeparts⟩)
        rcases (h.negative g rfl).mp ((ht.negative g rfl).mpr hfalls) with ⟨hpos, -⟩ | ⟨-, hrises⟩
        · exact ⟨hpos, .inr hfalls⟩
        · exact absurd hrises (hnot hfalls)
  · rintro (hnone | ⟨hpos, hdiffers⟩)
    · have hword := h.unknown.mpr hnone
      exact ⟨by simp [hword], by simp [hword], by simp [hnone], by simp [hnone]⟩
    · have hneg := hnot hpos
      have hdeparts : Figure.Departs before after ↔ Figure.less before after = true := by
        simp [Figure.Departs, hpos, hneg]
      have hreturns : Figure.Returns before after ↔ Figure.less after before = true := by
        simp [Figure.Returns, hpos, hneg]
      exact {
        increasing := fun hword => hdeparts.mp (h.increasing.mp hword).2
        decreasing := fun hword => hdiffers.resolve_left fun hrises =>
          (h.decreasing.mp hword).2 (hdeparts.mpr hrises)
        positive := fun g hg => (h.positive g hg).trans hdeparts
        negative := fun g hg => (h.negative g hg).trans hreturns }

/-- A trend compares the halves of the records by their days. It tells whether their revenue departs
from zero, which is the direction of the change only where the first half has a positive revenue and
the second one another. -/
theorem trend_truthful_iff [Figure.Ordered α] [Figure.Signed α] {rows : List (Record α)}
    (hne : rows ≠ []) :
    ∃ before after word, Halved rows before after ∧
      (trend rows).totals = [("revenue:first", .figure (revenueOf before)),
        ("revenue:second", .figure (revenueOf after)),
        ("growth", .ofFigure? (Figure.growth? (revenueOf before) (revenueOf after))),
        ("trend", .text word)] ∧
      TellsDeparture (revenueOf before) (revenueOf after)
        (Figure.growth? (revenueOf before) (revenueOf after)) word ∧
      (Truthful (revenueOf before) (revenueOf after)
          (Figure.growth? (revenueOf before) (revenueOf after)) word ↔
        Figure.growth? (revenueOf before) (revenueOf after) = none ∨
          Figure.less Figure.zero (revenueOf before) = true ∧
            (Figure.less (revenueOf before) (revenueOf after) = true ∨
              Figure.less (revenueOf after) (revenueOf before) = true)) := by
  have hrows : rows.isEmpty = false := by simpa using hne
  have htells := tellsDeparture_trendWord
    (revenueOf ((rows.mergeSort fun a b => a.date.le b.date).take (rows.length / 2)))
    (revenueOf ((rows.mergeSort fun a b => a.date.le b.date).drop (rows.length / 2)))
  refine ⟨_, _, _, halved_mergeSort rows, ?_, htells, htells.truthful_iff⟩
  rw [trend, hrows]
  simp only [List.length_mergeSort]
  rfl

end

/-- Two sales of given amounts, the second one a month later. -/
def twoSales (first second : Int) : List (Record Float) := [
  ⟨"Acme", "Rod", "Steel", "North", Figure.ofInt first, 1, .text "m1", ⟨2024, 4, 2⟩, true, none⟩,
  ⟨"Zen", "Bag", "Cement", "South", Figure.ofInt second, 1, .text "m2", ⟨2024, 5, 9⟩, true, none⟩]

theorem trend_truthful_iff_return : twoSales (-100) 50 ≠ [] ∧
    ∃ before after word, Halved (twoSales (-100) 50) before after ∧
      (trend (twoSales (-100) 50)).totals = [("revenue:first", .figure (revenueOf before)),
        ("revenue:second", .figure (revenueOf after)),
        ("growth", .ofFigure? (Figure.growth? (revenueOf before) (revenueOf after))),
        ("trend", .text word)] ∧
      TellsDeparture (revenueOf before) (revenueOf after)
        (Figure.growth? (revenueOf before) (revenueOf after)) word ∧
      (Truthful (revenueOf before) (revenueOf after)
          (Figure.growth? (revenueOf before) (revenueOf after)) word ↔
        Figure.growth? (revenueOf before) (revenueOf after) = none ∨
          Figure.less Figure.zero (revenueOf before) = true ∧
            (Figure.less (revenueOf before) (revenueOf after) = true ∨
              Figure.less (revenueOf after) (revenueOf before) = true)) :=
  ⟨List.cons_ne_nil _ _, trend_truthful_iff (List.cons_ne_nil _ _)⟩

theorem trend_twoSales {first second : Int} {x y g : Float}
    (hx : revenueOf ((twoSales first second).take 1) = x)
    (hy : revenueOf ((twoSales first second).drop 1) = y) (hg : Figure.growth? x y = some g) :
    (trend (twoSales first second)).totals =
      [("revenue:first", .figure x), ("revenue:second", .figure y), ("growth", .figure g),
        ("trend", .text (trendWord (some g)))] := by
  have hsorted : (twoSales first second).mergeSort (fun a b => a.date.le b.date) =
      twoSales first second := by
    apply List.mergeSort_of_pairwise
    simp [twoSales, Date.le]
  have hrows : (twoSales first second).isEmpty = false := rfl
  have hhalf : (twoSales first second).length / 2 = 1 := by simp [twoSales]
  rw [trend, hrows]
  simp only [hsorted, hhalf, hx, hy, hg]
  rfl

/-- After returns a rise is called a fall and a fall a rise, and revenue that stays the same is
called decreasing. -/
theorem trend_misleads :
    (∀ r ∈ twoSales (-100) 50 ++ twoSales (-100) (-200) ++ twoSales 100 100,
      r.amount.isFinite = true) ∧
    (trend (twoSales (-100) 50)).totals = [("revenue:first", .figure (-100)),
      ("revenue:second", .figure 50), ("growth", .figure (-150)), ("trend", .text "decreasing")] ∧
    ¬Truthful (-100 : Float) 50 (some (-150)) "decreasing" ∧
    (trend (twoSales (-100) (-200))).totals = [("revenue:first", .figure (-100)),
      ("revenue:second", .figure (-200)), ("growth", .figure 100), ("trend", .text "increasing")] ∧
    ¬Truthful (-100 : Float) (-200) (some 100) "increasing" ∧
    (trend (twoSales 100 100)).totals = [("revenue:first", .figure 100),
      ("revenue:second", .figure 100), ("growth", .figure 0), ("trend", .text "decreasing")] ∧
    ¬Truthful (100 : Float) 100 (some 0) "decreasing" := by
  refine ⟨by decide +kernel, ?_, ?_, ?_, ?_, ?_, ?_⟩
  · exact trend_twoSales (by decide +kernel) (by decide +kernel) (by decide +kernel)
  · exact fun h => absurd (h.decreasing rfl) (by decide +kernel)
  · exact trend_twoSales (by decide +kernel) (by decide +kernel) (by decide +kernel)
  · exact fun h => absurd (h.increasing rfl) (by decide +kernel)
  · exact trend_twoSales (by decide +kernel) (by decide +kernel) (by decide +kernel)
  · exact fun h => absurd (h.decreasing rfl) (by decide +kernel)

end SalesDesk
