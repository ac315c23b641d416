import SalesDesk.Proofs.Number.Digits
import SalesDesk.Proofs.Text.Runs
import SalesDesk.Proofs.Value.Written
import SalesDesk.Query.Numbers

/-! The periods that questions name. -/
namespace SalesDesk

namespace Period

/-- Is the month, if one is named, a month of the calendar? -/
def Known (p : Period) : Prop := ∃ month, p.monthNumber = .ok month

/-- A period that answers can tell: its month is known, and its year can be written. -/
structure Tellable (p : Period) : Prop where
  known : p.Known
  year : Number.isWritable (p.year?.getD 0) = true

theorem Tellable.written {p : Period} (h : p.Tellable) : p.written = .ok p.label :=
  Number.written_of_isWritable h.year p.label

theorem Known.written_eq_error {p : Period} (hp : p.Known) (h : ¬p.Tellable) :
    p.written = .error (.tooManyDigits none) := by
  have hyear : Number.isWritable (p.year?.getD 0) = false := by
    rw [← Bool.not_eq_true]
    exact fun hyear => h ⟨hp, hyear⟩
  exact Number.written_of_not_isWritable hyear p.label

theorem not_tellable {p : Period} {year : Int} (hyear : p.year = some year)
    (h : Number.isWritable year = false) : ¬p.Tellable := by
  intro htold
  have hne : year ≠ 0 := by
    rintro rfl
    rw [Number.isWritable_of_lt_word (by decide)] at h
    cases h
  have hgiven : p.year? = some year := by simp [year?, hyear, hne]
  have hwritable := htold.year
  rw [hgiven, Option.getD_some, h] at hwritable
  cases hwritable

/-- Does a day fall into the period? None falls into a month that is unknown. -/
def covers (p : Period) (d : Date) : Bool :=
  match p.monthNumber with
  | .ok month => includes month p.year? d
  | .error _ => false

theorem known_of_month {p : Period} (h : ∀ name, p.month = some name → name ∈ monthNames) :
    p.Known := by
  unfold Known monthNumber
  split
  · exact ⟨none, rfl⟩
  · rename_i name hname
    have hmem : name ∈ monthNames := h name (Option.filter_eq_some_iff.mp hname).1
    obtain ⟨i, hi⟩ := Option.isSome_iff_exists.mp (List.isSome_idxOf?.mpr hmem)
    exact ⟨some (i + 1), by rw [hi]⟩

theorem isWritable_year {p : Period}
    (h : ∀ year, p.year = some year → year.natAbs < 0x8000000000000000) :
    Number.isWritable (p.year?.getD 0) = true := by
  apply Number.isWritable_of_lt_word
  cases hyear : p.year? with
  | none => decide
  | some year => exact h year (Option.filter_eq_some_iff.mp hyear).1

end Period

namespace Query

theorem lt_of_mem_years {text : String} {year : Int} (h : year ∈ years text) :
    year.natAbs < 0x8000000000000000 := by
  obtain ⟨ds, hds, rfl⟩ := List.mem_map.mp h
  have hyear := (List.mem_filter.mp hds).2
  unfold isYear at hyear
  split at hyear
  · rename_i c d
    have hplain : ∀ e ∈ (['2', '0', c, d] : List Char).map Number.plainDigit, e.isDigit = true := by
      intro plain hplain
      obtain ⟨e, he, rfl⟩ := List.mem_map.mp hplain
      have hdigits : ∀ e ∈ ['2', '0', c, d], Text.isDigit e = true := by
        simp only [List.forall_mem_cons]
        exact ⟨by decide, by decide, (Bool.and_eq_true_iff.mp hyear).1,
          (Bool.and_eq_true_iff.mp hyear).2, nofun⟩
      exact Number.isDigit_plainDigit (hdigits e he)
    have hlt : Number.digitsToNat _ < Nat.pow 10 4 := Number.digitsToNat_lt hplain
    exact Nat.lt_trans hlt (by decide)
  · cases hyear

theorem mem_monthNames_of_mem_months {lower name : String} (h : name ∈ months lower) :
    name ∈ monthNames := by
  have hfilter := List.mem_eraseDups.mp h
  exact List.contains_iff_mem.mp (List.mem_filter.mp hfilter).2

theorem known_of_mem_periods {lower : String} {p : Period} (h : p ∈ periods lower) : p.Known := by
  obtain ⟨⟨name, i⟩, hmem, rfl⟩ := List.mem_map.mp h
  apply Period.known_of_month
  intro other hother
  obtain rfl : name = other := Option.some.inj hother
  exact mem_monthNames_of_mem_months (List.fst_mem_of_mem_zipIdx hmem)

theorem tellable_of_mem_periods {lower : String} {p : Period} (h : p ∈ periods lower) :
    p.Tellable := by
  refine ⟨known_of_mem_periods h, Period.isWritable_year fun year hyear => ?_⟩
  obtain ⟨⟨name, i⟩, -, rfl⟩ := List.mem_map.mp h
  change yearAt (years lower) i = some year at hyear
  unfold yearAt at hyear
  split at hyear
  · exact lt_of_mem_years (List.mem_of_getElem? hyear)
  · exact lt_of_mem_years (List.mem_of_mem_head? hyear)

theorem known_of_firstPeriod? {lower : String} {p : Period} (h : firstPeriod? lower = some p) :
    p.Known := by
  apply Period.known_of_month
  intro name hname
  unfold firstPeriod? at h
  split at h
  · cases h
  · cases h
    exact mem_monthNames_of_mem_months (List.mem_of_mem_head? hname)

theorem tellable_of_firstPeriod? {lower : String} {p : Period} (h : firstPeriod? lower = some p) :
    p.Tellable := by
  refine ⟨known_of_firstPeriod? h, Period.isWritable_year fun year hyear => ?_⟩
  unfold firstPeriod? at h
  split at h
  · cases h
  · cases h
    exact lt_of_mem_years (List.mem_of_mem_head? hyear)

/-- A question that names a month or a year says so by a word of its own. -/
theorem mentions_of_firstPeriod? {lower : String} {p : Period} (h : firstPeriod? lower = some p) :
    (Text.mentionsAny lower monthNames || !(years lower).isEmpty) = true := by
  unfold firstPeriod? at h
  split at h
  · cases h
  · rename_i month year hgiven
    cases hmonths : months lower with
    | nil =>
      cases hyears : years lower with
      | nil => exact absurd (by rw [hyears]; rfl) (hgiven (by rw [hmonths]; rfl))
      | cons y rest => simp
    | cons name rest =>
      have hmem : name ∈ months lower := by rw [hmonths]; exact List.mem_cons_self
      obtain ⟨w, hw, rfl⟩ := List.mem_map.mp (List.mem_filter.mp (List.mem_eraseDups.mp hmem)).1
      have hmention : Text.mentionsAny lower monthNames = true :=
        List.any_eq_true.mpr ⟨_, mem_monthNames_of_mem_months hmem, Text.mentions_of_mem_runs hw⟩
      rw [hmention, Bool.true_or]

theorem periods_of_single {lower : String} {p : Period} (h : firstPeriod? lower = some p)
    (hsingle : (months lower).length ≤ 1) : periods lower = [] ∨ periods lower = [p] := by
  unfold firstPeriod? at h
  match hmonths : months lower, hsingle with
  | [], _ => exact .inl (by simp [periods, hmonths])
  | [name], _ =>
    have hyear : yearAt (years lower) 0 = (years lower).head? := by
      simp [yearAt, List.head?_eq_getElem?]
    have hp : p = ⟨some name, (years lower).head?⟩ := by
      simpa [hmonths, eq_comm] using h
    exact .inr (by simp [periods, hmonths, hyear, hp])

end Query

end SalesDesk
