import SalesDesk.Proofs.Calendar.OnCalendar

/-! Days of the calendar, and so those of raw values, are near enough for a machine to count. -/
namespace SalesDesk

/-- A value without days and moments, as raw rows hold them. -/
inductive Value.IsRaw : Value → Prop
  | null : IsRaw .null
  | bool (b : Bool) : IsRaw (.bool b)
  | int (n : Int) : IsRaw (.int n)
  | number (x : Float) : IsRaw (.number x)
  | text (s : String) : IsRaw (.text s)
  | list {items : List Value} (h : ∀ v ∈ items, v.IsRaw) : IsRaw (.list items)
  | object {fields : Entries Value} (h : ∀ f ∈ fields, f.2.IsRaw) : IsRaw (.object fields)

namespace Date

def IsNear (d : Date) : Prop := d.toOrdinal < 0x100000000

theorem daysBeforeMonth_le (year month : Nat) : daysBeforeMonth year month ≤ 31 * month := by
  have hfold : ∀ (months : List Nat) (days : Nat),
      months.foldl (fun days m => days + daysInMonth year (m + 1)) days ≤
        days + 31 * months.length := by
    intro months
    induction months with
    | nil => exact fun days => Nat.le_refl days
    | cons m rest ih =>
      intro days
      have hm := daysInMonth_le year (m + 1)
      have hrest := ih (days + daysInMonth year (m + 1))
      rw [List.foldl_cons, List.length_cons]
      omega
  have hmonths := hfold (List.range (month - 1)) 0
  rw [List.length_range] at hmonths
  unfold daysBeforeMonth
  omega

theorem toOrdinal_le (d : Date) : d.toOrdinal ≤ 366 * d.year + 31 * d.month + d.day := by
  have hmonth := daysBeforeMonth_le d.year d.month
  have hyear : daysBeforeYear d.year ≤ 366 * d.year := by
    simp only [daysBeforeYear]
    omega
  unfold toOrdinal
  omega

theorem OnCalendar.isNear {d : Date} (h : d.OnCalendar) : d.IsNear := by
  have hyear := h.year_le
  have hmonth := h.month_le
  have hday := h.day_le_31
  have hle := d.toOrdinal_le
  unfold IsNear
  omega

theorem IsNear.earlier {d e : Date} (hd : d.IsNear) (he : e.IsNear) : (d.earlier e).IsNear := by
  unfold Date.earlier
  split
  · assumption
  · assumption

theorem IsNear.later {d e : Date} (hd : d.IsNear) (he : e.IsNear) : (d.later e).IsNear := by
  unfold Date.later
  split
  · assumption
  · assumption

end Date

theorem Value.IsRaw.onCalendar {v : Value} (h : v.IsRaw) : v.OnCalendar := by
  cases h <;> trivial

end SalesDesk
