import SalesDesk.Calendar.Reading
import Mathlib.Tactic.SplitIfs

/-! Days of the calendar. What a value says as a day is one of them. -/
namespace SalesDesk

/-- Does the calendar have the day, between the years 1 and 9999? -/
structure Date.OnCalendar (d : Date) : Prop where
  year_pos : 1 ≤ d.year
  year_le : d.year ≤ 9999
  month_pos : 1 ≤ d.month
  month_le : d.month ≤ 12
  day_pos : 1 ≤ d.day
  day_le : d.day ≤ daysInMonth d.year d.month

namespace Date

theorem daysInMonth_le (year month : Nat) : daysInMonth year month ≤ 31 := by
  unfold daysInMonth
  split_ifs <;> omega

theorem OnCalendar.day_le_31 {d : Date} (h : d.OnCalendar) : d.day ≤ 31 :=
  Nat.le_trans h.day_le (daysInMonth_le _ _)

theorem ofParts?_eq_some_iff {year month day : Nat} {d : Date} :
    ofParts? year month day = some d ↔ d = ⟨year, month, day⟩ ∧ d.OnCalendar := by
  unfold ofParts?
  constructor
  · intro h
    split_ifs at h with hparts
    obtain rfl := Option.some.inj h
    simp only [Bool.and_eq_true, decide_eq_true_eq] at hparts
    obtain ⟨⟨⟨⟨⟨hyear, hyear'⟩, hmonth⟩, hmonth'⟩, hday⟩, hday'⟩ := hparts
    exact ⟨rfl, hyear, hyear', hmonth, hmonth', hday, hday'⟩
  · rintro ⟨rfl, hyear, hyear', hmonth, hmonth', hday, hday'⟩
    simp_all

def lastDays (year : Nat) : Nat → Nat
  | 0 => 0
  | left + 1 => daysInMonth year (12 - left) + lastDays year left

theorem lastDays_twelve (year : Nat) :
    lastDays year 12 = if isLeap year then 366 else 365 := by
  cases hleap : isLeap year <;> simp [lastDays, daysInMonth, hleap]

/-- A day within the last months of a year is a day of one of them. -/
theorem monthOfDay_spec {year left day : Nat} (hleft : left ≤ 12) (h : day < lastDays year left) :
    1 ≤ (monthOfDay year left day).1 ∧ (monthOfDay year left day).1 ≤ 12 ∧
      (monthOfDay year left day).2 < daysInMonth year (monthOfDay year left day).1 := by
  induction left generalizing day with
  | zero => exact absurd h (Nat.not_lt_zero _)
  | succ left ih =>
    rw [monthOfDay]
    split_ifs with hday
    · exact ⟨by dsimp only; omega, by dsimp only; omega, hday⟩
    · rw [lastDays] at h
      exact ih (by omega) (by omega)

theorem isLeap_iff {year : Nat} :
    isLeap year = true ↔ year % 4 = 0 ∧ (year % 100 ≠ 0 ∨ year % 400 = 0) := by
  simp [isLeap]

section
variable {n cycles inCycle centuries inCentury fours inFour ones : Nat}

/-- Of the days of a group of four years the last one belongs to a leap year. -/
theorem lt_lastDays_of_groups (cycles : Nat) (hcycle : inCycle < 146097)
    (hcenturies : centuries = min 3 (inCycle / 36524))
    (hcentury : inCentury = inCycle - centuries * 36524) (hfours : fours = inCentury / 1461)
    (hfour : inFour = inCentury % 1461) (hones : ones = min 3 (inFour / 365)) :
    inFour - ones * 365 < lastDays (400 * cycles + 100 * centuries + 4 * fours + ones + 1) 12 := by
  rw [lastDays_twelve]
  split_ifs with hleap
  · omega
  · rw [isLeap_iff] at hleap
    omega

theorem year_le_of_groups (h : n ≤ 3652058) (hcycles : cycles = n / 146097)
    (hcycle : inCycle = n % 146097) (hcenturies : centuries = min 3 (inCycle / 36524))
    (hcentury : inCentury = inCycle - centuries * 36524) (hfours : fours = inCentury / 1461)
    (hfour : inFour = inCentury % 1461) (hones : ones = min 3 (inFour / 365)) :
    400 * cycles + 100 * centuries + 4 * fours + ones + 1 ≤ 9999 := by
  omega

end

/-- The numbers up to that of the last day of the year 9999 are those of days. -/
theorem onCalendar_ofOrdinal {number : Nat} (h : number ≤ 3652059) :
    (ofOrdinal number).OnCalendar := by
  have hcycle := Nat.mod_lt (number - 1) (y := 146097) (by decide)
  have hday := lt_lastDays_of_groups ((number - 1) / 146097) hcycle rfl rfl rfl rfl rfl
  have hyear := year_le_of_groups (n := number - 1) (by omega) rfl rfl rfl rfl rfl rfl rfl
  have hfound := monthOfDay_spec (Nat.le_refl 12) hday
  unfold ofOrdinal
  simp only
  generalize monthOfDay _ 12 _ = found at hfound ⊢
  obtain ⟨month, day⟩ := found
  exact ⟨Nat.succ_pos _, hyear, hfound.1, hfound.2.1, Nat.succ_pos _, hfound.2.2⟩

end Date

/-- A day or a moment in the place of a day is one of the calendar. -/
def Value.OnCalendar : Value → Prop
  | .date d => d.OnCalendar
  | .moment m => m.date.OnCalendar
  | _ => True

namespace DayReading

variable {d today : Date}

theorem onCalendar_of_ofStamp {s : Stamp} (h : ofStamp s = .day d) : d.OnCalendar := by
  unfold ofStamp at h
  split at h
  · cases h
    exact (Date.ofParts?_eq_some_iff.mp ‹_›).2
  · cases h

theorem onCalendar_of_ofText {s : String} (h : ofText s today = .day d) : d.OnCalendar := by
  unfold ofText at h
  split at h
  · cases h
  · exact onCalendar_of_ofStamp h
  · cases h
  · exact onCalendar_of_ofStamp h

theorem onCalendar_of_ofNanoseconds {n : Int} (h : ofNanoseconds n = .day d) : d.OnCalendar := by
  unfold ofNanoseconds at h
  split_ifs at h with hrange
  cases h
  simp only [Bool.or_eq_true, decide_eq_true_eq, not_or] at hrange
  unfold dayLength
  apply Date.onCalendar_ofOrdinal
  omega

theorem onCalendar_of_ofDouble {x : Float} (h : ofDouble x = .day d) : d.OnCalendar := by
  unfold ofDouble at h
  split_ifs at h
  split at h
  · cases h
  · exact onCalendar_of_ofNanoseconds h

theorem ofItems_ne_day (items : List Value) (today d : Date) : ofItems items today ≠ .day d := by
  unfold ofItems
  simp only
  split_ifs
  · exact nofun
  · split <;> exact nofun

/-- What a value says as a day is a day of the calendar. -/
theorem onCalendar_of_ofValue {v : Value} (hv : v.OnCalendar) (h : ofValue v today = .day d) :
    d.OnCalendar := by
  cases v with
  | null | bool => cases h
  | int n => exact onCalendar_of_ofNanoseconds h
  | number x => exact onCalendar_of_ofDouble h
  | text s => exact onCalendar_of_ofText h
  | date e =>
    cases h
    exact hv
  | moment m =>
    cases h
    exact hv
  | list items => exact absurd h (ofItems_ne_day _ _ d)
  | object fields =>
    simp only [ofValue] at h
    split_ifs at h

end DayReading

end SalesDesk
