import SalesDesk.Calendar.DayText
import SalesDesk.Proofs.Calendar.OnCalendar
import SalesDesk.Proofs.Number.Digits

/-!
The text of a day, `2024-04-02`, as the standard order and the free order read it. Both see its
three numbers and the hyphens between them, and say the day again.
-/
namespace SalesDesk

namespace Date

def hyphenated (ys ms ds : List Char) : List Char := ys ++ '-' :: (ms ++ '-' :: ds)

/-- The digits that a day is written with. -/
structure Written (d : Date) (ys ms ds : List Char) : Prop where
  year_text : padded 4 d.year = String.ofList ys
  month_text : padded 2 d.month = String.ofList ms
  day_text : padded 2 d.day = String.ofList ds
  length_year : ys.length = 4
  length_month : ms.length = 2
  length_day : ds.length = 2
  isDigit_year : ∀ c ∈ ys, c.isDigit = true
  isDigit_month : ∀ c ∈ ms, c.isDigit = true
  isDigit_day : ∀ c ∈ ds, c.isDigit = true
  year : Number.digitsToNat ys = d.year
  month : Number.digitsToNat ms = d.month
  day : Number.digitsToNat ds = d.day

variable {d : Date} {ys ms ds : List Char}

theorem OnCalendar.written (h : d.OnCalendar) :
    d.Written (Number.padLeft 4 (Number.digits d.year)) (Number.padLeft 2 (Number.digits d.month))
      (Number.padLeft 2 (Number.digits d.day)) where
  year_text := rfl
  month_text := rfl
  day_text := rfl
  length_year := Number.length_padLeft (by decide) (Nat.lt_of_le_of_lt h.year_le (by decide))
  length_month := Number.length_padLeft (by decide) (Nat.lt_of_le_of_lt h.month_le (by decide))
  length_day := Number.length_padLeft (by decide) (Nat.lt_of_le_of_lt h.day_le_31 (by decide))
  isDigit_year := Number.isDigit_padLeft
  isDigit_month := Number.isDigit_padLeft
  isDigit_day := Number.isDigit_padLeft
  year := Number.digitsToNat_padLeft _ _
  month := Number.digitsToNat_padLeft _ _
  day := Number.digitsToNat_padLeft _ _

namespace Written

theorem iso (h : d.Written ys ms ds) : d.iso = String.ofList (hyphenated ys ms ds) := by
  apply String.toList_injective
  simp [Date.iso, h.year_text, h.month_text, h.day_text, hyphenated]

theorem digit_or_hyphen (h : d.Written ys ms ds) :
    ∀ c ∈ hyphenated ys ms ds, c.isDigit = true ∨ c = '-' := by
  intro c hc
  simp only [hyphenated, List.mem_append, List.mem_cons] at hc
  rcases hc with hc | hc | hc | hc | hc
  · exact .inl (h.isDigit_year c hc)
  · exact .inr hc
  · exact .inl (h.isDigit_month c hc)
  · exact .inr hc
  · exact .inl (h.isDigit_day c hc)

theorem map_plainDigit (h : d.Written ys ms ds) :
    (hyphenated ys ms ds).map Number.plainDigit = hyphenated ys ms ds := by
  have hhyphen : Number.plainDigit '-' = '-' := by decide
  simp only [hyphenated, List.map_append, List.map_cons, Number.map_plainDigit h.isDigit_year,
    Number.map_plainDigit h.isDigit_month, Number.map_plainDigit h.isDigit_day, hhyphen]

end Written

end Date

section
variable {d : Date} {ys ms ds : List Char}

theorem Date.OnCalendar.date?_ofDate (h : d.OnCalendar) : (Stamp.ofDate d).date? = some d :=
  Date.ofParts?_eq_some_iff.mpr ⟨rfl, h⟩

theorem DayReading.ofStamp_ofDate (h : d.OnCalendar) : ofStamp (Stamp.ofDate d) = .day d := by
  rw [ofStamp, h.date?_ofDate]

namespace StandardDay

theorem isBlank_of_isDigit {c : Char} (h : c.isDigit = true) : isBlank c = false := by
  have hrange := Text.toNat_of_isDigit h
  have hspace : c ≠ ' ' := by
    rintro rfl
    exact absurd h (by decide)
  simp only [isBlank, beq_eq_false_iff_ne.mpr hspace, Bool.false_or, Bool.and_eq_false_iff,
    decide_eq_false_iff_not]
  omega

theorem read?_iso (hd : d.OnCalendar) (h : d.Written ys ms ds) :
    read? d.iso.toList = some (Stamp.ofDate d) := by
  rw [h.iso, String.toList_ofList]
  obtain ⟨-, -, -, hys, hms, hds, hydigits, hmdigits, hddigits, hyear, hmonth, hday⟩ := h
  match ys, ms, ds, hys, hms, hds with
  | [a, b, c, e], [p, q], [u, v], _, _, _ =>
    simp only [List.forall_mem_cons] at hydigits hmdigits hddigits
    obtain ⟨ha, hb, hc, he, -⟩ := hydigits
    obtain ⟨hp, hq, -⟩ := hmdigits
    obtain ⟨hu, hv, -⟩ := hddigits
    have hfirst : a ≠ '-' := by
      rintro rfl
      exact absurd ha (by decide)
    have hdays : isDayOf d.year d.month d.day = true := by simp [isDayOf, hd.day_pos, hd.day_le]
    have hmonths : d.month ≠ 0 ∧ d.month ≤ 12 := ⟨Nat.ne_of_gt hd.month_pos, hd.month_le⟩
    have hmark : '-'.isDigit = false := rfl
    simp [Date.hyphenated, read?, readMonth?, readDay?, takePair?, startsWithDigit, isSeparator,
      isBlank_of_isDigit, Stamp.ofDate, ha, hb, hc, he, hp, hq, hu, hv, hfirst, hyear, hmonth, hday,
      hdays, hmark, hmonths]

end StandardDay

namespace WrittenDay

section
variable {c : Char} {cs rest : List Char}

theorem kindOf_of_isDigit (h : c.isDigit = true) : kindOf c = .digit := by
  rw [kindOf, if_pos h]

theorem parts_of_digits (hne : cs ≠ []) (h : ∀ c ∈ cs, c.isDigit = true) :
    parts cs = [.number ⟨cs, []⟩] := by
  induction cs with
  | nil => exact absurd rfl hne
  | cons c rest ih =>
    obtain ⟨hc, hrest⟩ := List.forall_mem_cons.mp h
    cases rest with
    | nil => simp [parts, kindOf_of_isDigit hc]
    | cons d more => rw [parts, kindOf_of_isDigit hc, ih (List.cons_ne_nil _ _) hrest]

def digitRun (chars : List Char) : Run := { chars, kind := .digit }

theorem extend?_digitRun (chars : List Char) (h : c.isDigit = true) :
    (digitRun chars).extend? c = some (digitRun (c :: chars)) := by
  have hpoint : c ≠ '.' := by
    rintro rfl
    exact absurd h (by decide)
  have hcomma : c ≠ ',' := by
    rintro rfl
    exact absurd h (by decide)
  simp [Run.extend?, Run.followed, digitRun, kindOf_of_isDigit h, hpoint, hcomma]

theorem tokens_digitRun {chars : List Char} (hne : chars ≠ [])
    (h : ∀ c ∈ chars, c.isDigit = true) :
    (digitRun chars).tokens = [.number ⟨chars.reverse, []⟩] :=
  parts_of_digits (List.reverse_ne_nil_iff.mpr hne) fun c hc => h c (List.mem_reverse.mp hc)

theorem scan_digitRun (chars : List Char) (hcs : ∀ c ∈ cs, c.isDigit = true) :
    scan (some (digitRun chars)) (cs ++ rest) =
      scan (some (digitRun (cs.reverse ++ chars))) rest := by
  induction cs generalizing chars with
  | nil => rfl
  | cons c more ih =>
    obtain ⟨hc, hmore⟩ := List.forall_mem_cons.mp hcs
    rw [List.cons_append, scan, extend?_digitRun chars hc]
    simp only
    rw [ih _ hmore, List.reverse_cons, List.append_assoc]
    rfl

theorem scan_digits (hne : cs ≠ []) (hcs : ∀ c ∈ cs, c.isDigit = true) :
    scan none (cs ++ rest) = scan (some (digitRun cs.reverse)) rest := by
  cases cs with
  | nil => exact absurd rfl hne
  | cons c more =>
    obtain ⟨hc, hmore⟩ := List.forall_mem_cons.mp hcs
    have hstart : start c = ([], some (digitRun [c])) := by
      rw [start, kindOf_of_isDigit hc]
      rfl
    rw [List.cons_append, scan, hstart]
    simp only [List.nil_append]
    rw [scan_digitRun _ hmore, List.reverse_cons]

theorem tokens_digitRun_reverse (hne : cs ≠ []) (hcs : ∀ c ∈ cs, c.isDigit = true) :
    (digitRun cs.reverse).tokens = [.number ⟨cs, []⟩] := by
  rw [tokens_digitRun (by simpa using hne) fun c hc => hcs c (List.mem_reverse.mp hc),
    List.reverse_reverse]

theorem scan_digits_nil (hne : cs ≠ []) (hcs : ∀ c ∈ cs, c.isDigit = true) :
    scan none cs = [.number ⟨cs, []⟩] := by
  rw [← List.append_nil cs, scan_digits hne hcs, scan, tokens_digitRun_reverse hne hcs,
    List.append_nil]

theorem scan_digits_hyphen (hne : cs ≠ []) (hcs : ∀ c ∈ cs, c.isDigit = true) :
    scan none (cs ++ '-' :: rest) = .number ⟨cs, []⟩ :: .mark '-' :: scan none rest := by
  have hstop : (digitRun cs.reverse).extend? '-' = none := rfl
  have hstart : start '-' = ([.mark '-'], none) := rfl
  have hfollowed : (digitRun cs.reverse).followed = digitRun cs.reverse := rfl
  rw [scan_digits hne hcs, scan, hstop]
  simp only
  rw [hstart, hfollowed, tokens_digitRun_reverse hne hcs]
  rfl

end

theorem tokens_iso (h : d.Written ys ms ds) : tokens d.iso =
    [.number ⟨ys, []⟩, .mark '-', .number ⟨ms, []⟩, .mark '-', .number ⟨ds, []⟩] := by
  have hkeep : (Date.hyphenated ys ms ds).filter (· != '\x00') = Date.hyphenated ys ms ds := by
    apply List.filter_eq_self.mpr
    intro c hc
    simp only [bne_iff_ne, ne_eq]
    rintro rfl
    rcases h.digit_or_hyphen _ hc with hdigit | hhyphen
    · exact absurd hdigit (by decide)
    · exact absurd hhyphen (by decide)
  have hys : ys ≠ [] := List.ne_nil_of_length_eq_add_one h.length_year
  have hms : ms ≠ [] := List.ne_nil_of_length_eq_add_one h.length_month
  have hds : ds ≠ [] := List.ne_nil_of_length_eq_add_one h.length_day
  rw [h.iso, tokens, String.toList_ofList, hkeep, h.map_plainDigit, Date.hyphenated,
    scan_digits_hyphen hys h.isDigit_year, scan_digits_hyphen hms h.isDigit_month,
    scan_digits_nil hds h.isDigit_day]

theorem read?_iso (hd : d.OnCalendar) (h : d.Written ys ms ds) (today : Date) (fill : Bool) :
    read? d.iso today fill = some (Stamp.ofDate d) := by
  have hdate := Date.ofParts?_eq_some_iff.mpr ⟨rfl, hd⟩
  have hstep : step? today.year {} [] (.number ⟨ys, []⟩)
      [.mark '-', .number ⟨ms, []⟩, .mark '-', .number ⟨ds, []⟩] =
        some ({ parts := [⟨d.year, .year⟩, ⟨d.month, .plain⟩, ⟨d.day, .plain⟩] }, []) := by
    simp [step?, readNumber?, Numeral.width, Numeral.isInteger, h.length_year, h.length_month,
      h.length_day, unitAfter?, unitBefore?, Token.unit?, readJoined?, addSeparated?,
      Found.addDigits?, Found.add?, Found.has, isFiller, h.year, h.month, h.day]
  rw [read?, tokens_iso h]
  simp only [List.length_cons, List.length_nil, readAll?, hstep, Option.bind_some]
  cases fill <;>
    simp [Found.stamp?, Found.day?, Fields.nearest?, resolve?, Found.has, zoneOffset?, Stamp.date?,
      hdate, Stamp.hasClockTime, Stamp.hasZone, Stamp.ofDate]

end WrittenDay

theorem DayText.ofText_iso (hd : d.OnCalendar) (today : Date) :
    ofText d.iso today = .stamp (Stamp.ofDate d) := by
  have h := hd.written
  have hlength : d.iso.length = 10 := by
    rw [h.iso, String.length_ofList, Date.hyphenated]
    simp [h.length_year, h.length_month, h.length_day]
  have hgiven : missingTexts.contains d.iso = false := by
    have hshort : ∀ s ∈ missingTexts, s.length ≠ 10 := by decide
    simpa using fun hmem => hshort _ hmem hlength
  have hclock : isClockWord d.iso = false := by
    have hother : ∀ s : String, s.length ≠ 10 → (d.iso == s) = false := fun s hs =>
      beq_eq_false_iff_ne.mpr fun heq => hs (heq ▸ hlength)
    rw [isClockWord, hother "now" (by decide), hother "today" (by decide), Bool.or_false]
  have hread : readStamp? d.iso today = some (Stamp.ofDate d) := by
    rw [readStamp?, StandardDay.read?_iso hd h]
    rfl
  rw [ofText, hgiven, hclock, hread]
  rfl

end

end SalesDesk
