import SalesDesk.Proofs.Report.FigureTexts
import SalesDesk.Proofs.Report.Rendered

/-!
Figures in the text of an answer: each one stands there as digits, or as missing where it is no
finite number.
-/
namespace SalesDesk

open SalesDesk.Number

/-- An answer has a text if its figures are missing, doubles or integers that have a double, its
other values can be written and its lists have columns. In the text each figure stands as digits, or
as missing where it is no finite number. -/
theorem Result.render_shows_figures (s : Style) {r : Result Float}
    (hvalues : ∀ name v, r.Shows name v → Format.IsShowable name v) (hcolumns : ¬r.LacksColumns) :
    ∃ text, r.render s = .ok text ∧ ∀ name v kind, r.Shows name v →
      Format.kinds.lookup (Format.stem name) = some kind → kind ≠ .day →
      ∃ t, Format.entry s name v = .ok t ∧ t.toList <:+: text.toList ∧
        Format.ShownAs s v kind t.toList := by
  have htexts (name : String) (v : Cell Float) (hshows : r.Shows name v) :=
    Format.gives_entry_shown (s := s) (hvalues name v hshows)
  obtain ⟨text, htext, hstands⟩ := Result.gives_render_shown s r (fun name v hshows =>
    have ⟨t, ht, _⟩ := htexts name v hshows
    ⟨t, ht⟩) hcolumns
  refine ⟨text, htext, fun name v kind hshows hkind hday => ?_⟩
  obtain ⟨t, ht, hpart⟩ := hstands name v hshows
  obtain ⟨t', ht', hshown⟩ := htexts name v hshows
  obtain rfl : t = t' := Except.ok.inj (ht.symm.trans ht')
  exact ⟨t, ht, hpart, hshown kind hkind hday⟩

def acmeList : Result Float where
  kind := .table
  layout := .list
  columns := ["customer", "revenue"]
  rows := [[("customer", .text "Acme"), ("revenue", .count (-1234567))]]

def fewFigures : Result Float where
  kind := .summary
  totals := [("growth", .absent), ("quantity", .figure 2.5)]

def twoSections : Result Float where
  kind := .composite
  sections := [acmeList, fewFigures]

theorem Result.render_shows_figures_twoSections :
    (∀ name v, twoSections.Shows name v → Format.IsShowable name v) ∧ ¬twoSections.LacksColumns ∧
      ∃ text, twoSections.render {} = .ok text ∧ ∀ name v kind, twoSections.Shows name v →
        Format.kinds.lookup (Format.stem name) = some kind → kind ≠ .day →
        ∃ t, Format.entry {} name v = .ok t ∧ t.toList <:+: text.toList ∧
          Format.ShownAs {} v kind t.toList := by
  have hlist : ∀ e ∈ acmeList.shown, Format.IsShowable e.1 e.2 := by
    have hshown : acmeList.shown =
        [("customer", .text "Acme"), ("revenue", .count (-1234567))] := rfl
    have hrevenue : Format.IsShowable "revenue" (.count (-1234567)) := lt_overflow (by decide)
    rw [hshown, List.forall_mem_cons, List.forall_mem_singleton]
    exact ⟨rfl, hrevenue⟩
  have hfigures : ∀ e ∈ fewFigures.shown, Format.IsShowable e.1 e.2 := by
    have hshown : fewFigures.shown = [("growth", .absent), ("quantity", .figure 2.5)] := rfl
    rw [hshown, List.forall_mem_cons, List.forall_mem_singleton]
    exact ⟨trivial, trivial⟩
  have hparts : ∀ part ∈ [acmeList, fewFigures], part.kind ≠ .composite ∧ ¬part.LacksColumns ∧
      ∀ e ∈ part.shown, Format.IsShowable e.1 e.2 := by
    rw [List.forall_mem_cons, List.forall_mem_singleton]
    exact ⟨⟨by decide, Result.not_lacksColumns (by decide) (.inl (by decide)), hlist⟩,
      by decide, Result.not_lacksColumns (by decide) (.inr rfl), hfigures⟩
  have hvalues : ∀ name v, twoSections.Shows name v → Format.IsShowable name v := by
    intro name v h
    obtain ⟨part, hpart, h⟩ := (Result.shows_iff_of_composite rfl).mp h
    obtain ⟨hkind, -, hshown⟩ := hparts part hpart
    exact hshown (name, v) ((Result.shows_iff_of_ne_composite hkind).mp h)
  have hcolumns : ¬twoSections.LacksColumns :=
    Result.not_lacksColumns_of_composite rfl fun part hpart => (hparts part hpart).2.1
  exact ⟨hvalues, hcolumns, Result.render_shows_figures {} hvalues hcolumns⟩

/-- Percentages have no groups, a list of rows needs a column, and an integer can be too long to be
written. -/
theorem Result.growth_not_grouped :
    ({ kind := .summary, totals := [("growth", .figure 1234.5)] } : Result Float).render {} =
        .ok "• Growth: 1234.50%" ∧
      (¬∃ size sign fixed text, (sign = [] ∨ sign = ['-']) ∧ Format.Grouped size fixed text ∧
        "1234.50%".toList = sign ++ text ++ ['%']) ∧
      ({ kind := .table, layout := .list, rows := [[("customer", .text "Acme")]] } :
        Result Float).render {} = .error .noColumns ∧
      ({ kind := .summary, totals := [("customer", .count leastTooLong)] } :
        Result Float).render {} = .error (.tooManyDigits none) := by
  have htooLong (v : Cell Float) (hv : (Format.valueOf v).holdsLongInteger = true) :
      ({ kind := .summary, totals := [("customer", v)] } : Result Float).render {} =
        .error (.tooManyDigits none) := by
    have hentry : Format.entry {} "customer" v = .error (.tooManyDigits none) := by
      exact Value.written_of_long hv _
    have hlines : Render.bullets {} { kind := .summary, totals := [("customer", v)] } =
        .error (.tooManyDigits none) := by
      rw [Render.bullets, List.mapM_cons]
      simp only [hentry]
      rfl
    rw [Result.render, hlines]
    rfl
  have hlong : (Value.int Number.leastTooLong).holdsLongInteger = true := by
    rw [Number.holdsLongInteger_int, Number.not_isWritable_leastTooLong]
    rfl
  refine ⟨by with_unfolding_all rfl, ?_, rfl, htooLong _ hlong⟩
  rintro ⟨size, sign, fixed, text, hsign, hgrouped, htext⟩
  have hcomma := hgrouped.comma_mem_iff
  have hfixed := hgrouped.filter
  rcases hsign with rfl | rfl
  · have hsame : "1234.50".toList = text :=
      List.append_cancel_right (show _ ++ ['%'] = _ from htext)
    subst hsame hfixed
    exact absurd hcomma (by decide)
  · cases htext

end SalesDesk
