import SalesDesk.Calendar.Reading
import SalesDesk.Proofs.Calendar.Iso

/-!
The layout of a day's text. Its year, month and day each show in their own place, so that the layout
reads the day back; a year below 1000 has zeros before it that no part shows, and then there is no
layout. Either way the text says the day.
-/
namespace SalesDesk

namespace DayLayout

open WrittenDay

section
variable {s : Stamp} {slots : List Slot} {found : List Subject}

/-- What the parts of a shape look like together, if the stamp has all of them. -/
def shown? (s : Stamp) (places : List Place) : Option String :=
  (places.mapM (Place.show? s)).map String.join

theorem shown?_cons (s : Stamp) (p : Place) (rest : List Place) :
    shown? s (p :: rest) = (p.show? s).bind fun text => (shown? s rest).map (text ++ ·) := by
  cases hshow : p.show? s with
  | none => simp [shown?, hshow]
  | some text =>
    cases hrest : rest.mapM (Place.show? s) with
    | none => simp [shown?, hshow, hrest]
    | some texts => simp [shown?, hshow, hrest]

theorem shown?_single (s : Stamp) (p : Place) : shown? s [p] = p.show? s := by
  have hnil : shown? s [] = some "" := rfl
  rw [shown?_cons, hnil]
  cases p.show? s <;> simp

/-- Does the slot, while it is free, show something else than the shape? -/
def Differs (s : Stamp) (shape : List Place × Nat) (slot : Slot) : Prop :=
  slot.places = [] → shown? s shape.1 ≠ some (filled shape.2 slot)

section
variable {places : List Place} {width : Nat} {text : String} {slot : Slot}

theorem take?_here (hfree : slot.places = []) (htext : filled width slot = text) :
    take? places width text (slot :: slots) = some ({ slot with places } :: slots) := by
  simp [take?, hfree, htext]

theorem take?_later (h : slot.places = [] → filled width slot ≠ text) :
    take? places width text (slot :: slots) =
      (take? places width text slots).map (slot :: ·) := by
  have hother : (slot.places.isEmpty && filled width slot == text) = false := by
    simpa only [Bool.and_eq_false_imp, List.isEmpty_iff, beq_eq_false_iff_ne] using h
  rw [take?, hother]
  rfl

end

theorem Differs.filled_ne {shape : List Place × Nat} {slot : Slot} {text : String}
    (h : Differs s shape slot) (htext : shown? s shape.1 = some text) :
    slot.places = [] → filled shape.2 slot ≠ text :=
  fun hfree heq => h hfree (by rw [htext, heq])

theorem take?_of_differs {shape : List Place × Nat} {text : String}
    (htext : shown? s shape.1 = some text) (h : ∀ slot ∈ slots, Differs s shape slot) :
    take? shape.1 shape.2 text slots = none := by
  induction slots with
  | nil => rfl
  | cons slot rest ih =>
    obtain ⟨hslot, hrest⟩ := List.forall_mem_cons.mp h
    rw [take?_later (hslot.filled_ne htext), ih hrest]
    rfl

/-- A shape is found as the first free slot that shows it is taken. -/
theorem findShape_eq (shape : List Place × Nat) : findShape s (slots, found) shape =
    if (shape.1.filterMap Place.subject?).any found.contains then (slots, found)
    else
      match (shown? s shape.1).bind fun text => take? shape.1 shape.2 text slots with
      | some taken => (taken, found ++ shape.1.filterMap Place.subject?)
      | none => (slots, found) := by
  unfold findShape shown?
  simp only
  split
  · rfl
  · cases shape.1.mapM (Place.show? s) <;> rfl

theorem findShape_of_taken {shape : List Place × Nat} {text : String} {taken : List Slot}
    (hnew : (shape.1.filterMap Place.subject?).any found.contains = false)
    (htext : shown? s shape.1 = some text)
    (htaken : take? shape.1 shape.2 text slots = some taken) :
    findShape s (slots, found) shape = (taken, found ++ shape.1.filterMap Place.subject?) := by
  rw [findShape_eq, hnew, htext, Option.bind_some, htaken]
  rfl

/-- A shape that differs from all slots changes nothing. -/
theorem findShape_of_differs {shape : List Place × Nat}
    (h : ∀ slot ∈ slots, Differs s shape slot) :
    findShape s (slots, found) shape = (slots, found) := by
  rw [findShape_eq]
  split
  · rfl
  · cases htext : shown? s shape.1 with
    | none => rfl
    | some text => rw [Option.bind_some, take?_of_differs htext h]

theorem foldl_of_differs {shapes : List (List Place × Nat)}
    (h : ∀ shape ∈ shapes, ∀ slot ∈ slots, Differs s shape slot) :
    shapes.foldl (findShape s) (slots, found) = (slots, found) := by
  induction shapes with
  | nil => rfl
  | cons shape rest ih =>
    obtain ⟨hshape, hrest⟩ := List.forall_mem_cons.mp h
    rw [List.foldl_cons, findShape_of_differs hshape, ih hrest]

/-- A first slot that differs from the shapes stays as it is. -/
theorem head_findShape {slot : Slot} {shape : List Place × Nat} (h : Differs s shape slot) :
    ∃ rest found', findShape s (slot :: slots, found) shape = (slot :: rest, found') := by
  rw [findShape_eq]
  split
  · exact ⟨_, _, rfl⟩
  · cases htext : shown? s shape.1 with
    | none => exact ⟨_, _, rfl⟩
    | some text =>
      rw [Option.bind_some, take?_later (h.filled_ne htext)]
      cases take? shape.1 shape.2 text slots with
      | none => exact ⟨_, _, rfl⟩
      | some taken => exact ⟨_, _, rfl⟩

theorem head_foldl {slot : Slot} {shapes : List (List Place × Nat)}
    (h : ∀ shape ∈ shapes, Differs s shape slot) (slots : List Slot) (found : List Subject) :
    ∃ rest found', shapes.foldl (findShape s) (slot :: slots, found) = (slot :: rest, found') := by
  induction shapes generalizing slots found with
  | nil => exact ⟨_, _, rfl⟩
  | cons shape rest ih =>
    obtain ⟨hshape, hrest⟩ := List.forall_mem_cons.mp h
    obtain ⟨slots', found', hfound⟩ := @head_findShape s slots found slot shape hshape
    rw [List.foldl_cons, hfound]
    exact ih hrest slots' found'

theorem pieces?_of_free {slot : Slot} (hnumber : slot.isNumber = true) (hfree : slot.places = []) :
    pieces? (slot :: slots) found = none := by
  simp [pieces?, hnumber, hfree]

end

section
variable {d : Date} {cs : List Char} {width : Nat}

def numberSlot (cs : List Char) (places : List Place) : Slot := ⟨String.ofList cs, true, places⟩

def hyphenSlot : Slot := ⟨"-", false, []⟩

theorem filled_numberSlot (hcs : ∀ c ∈ cs, c.isDigit = true) (hwidth : width ≤ cs.length)
    (places : List Place) : filled width (numberSlot cs places) = String.ofList cs := by
  have hpoint : '.' ∉ cs := fun hmem => absurd (hcs _ hmem) (by decide)
  simp [filled, numberSlot, hpoint, Number.padLeft, Nat.sub_eq_zero_of_le hwidth]

/-- A text that shows nothing of a day but its time or its names: zeros, or a text that is long or
no number. -/
def IsOdd (text : String) : Prop :=
  text = "00" ∨ text = "0000" ∨ 4 < text.length ∨
    (1 < text.length ∧ text.toList.all (·.isDigit) = false)

theorem isOdd_monthTitle : ∀ n < 12, IsOdd (monthTitle (n + 1)) ∧
    IsOdd (Place.short (monthTitle (n + 1))) := by
  unfold IsOdd
  decide

theorem isOdd_weekdayTitle : ∀ n < 7, IsOdd (Place.weekdayTitle n) ∧
    IsOdd (Place.short (Place.weekdayTitle n)) := by
  unfold IsOdd
  decide

theorem isOdd_zeros : IsOdd (Date.padded 2 0) ∧ IsOdd (Date.padded 6 (0 / 1000)) := by
  unfold IsOdd
  decide

theorem shown?_midnight : shown? {} [.hour, .minute, .second] = some "000000" ∧
    shown? {} [.hour, .minute] = some "0000" ∧
    shown? {} [.second, .point, .fraction] = some "00.000000" := by
  decide

theorem length_padded (hwidth : 0 < width) {n : Nat} (h : n < Nat.pow 10 width) :
    (Date.padded width n).length = width := by
  rw [Date.padded, String.length_ofList, Number.length_padLeft hwidth h]

/-- The year comes before the month, the day and whatever follows. -/
theorem isOdd_day_append (hd : d.OnCalendar) (rest : String) :
    IsOdd (d.year.repr ++ (Date.padded 2 d.month ++ (Date.padded 2 d.day ++ rest))) := by
  have hyear : 0 < d.year.repr.length := by
    rw [Nat.repr_eq_ofList_toDigits, String.length_ofList]
    exact Nat.length_toDigits_pos
  have hmonth := length_padded (by decide)
    (Nat.lt_of_le_of_lt hd.month_le (by decide : 12 < Nat.pow 10 2))
  have hday := length_padded (by decide)
    (Nat.lt_of_le_of_lt hd.day_le_31 (by decide : 31 < Nat.pow 10 2))
  right
  right
  left
  simp only [String.length_append, hmonth, hday]
  omega

theorem isOdd_of_show? (hd : d.OnCalendar) {p : Place} (hpoint : p ≠ .point)
    (hyear : p ≠ .year) (hmonth : p ≠ .month) (hday : p ≠ .day) {text : String}
    (h : p.show? (Stamp.ofDate d) = some text) : IsOdd text := by
  have htitle : IsOdd (monthTitle d.month) ∧ IsOdd (Place.short (monthTitle d.month)) := by
    have hmonth_le := hd.month_le
    have hpred := isOdd_monthTitle (d.month - 1) (by omega)
    rwa [Nat.sub_add_cancel hd.month_pos] at hpred
  have hfull : Place.show?.fullDay? (Stamp.ofDate d) = some d :=
    hd.date?_ofDate
  have hweekday := isOdd_weekdayTitle d.weekday (Nat.mod_lt _ (by decide))
  cases p with
  | year => exact absurd rfl hyear
  | month => exact absurd rfl hmonth
  | day => exact absurd rfl hday
  | point => exact absurd rfl hpoint
  | monthName => exact Option.some.inj h ▸ htitle.1
  | monthShort => exact Option.some.inj h ▸ htitle.2
  | hour | halfHour | minute | second => exact Option.some.inj h ▸ isOdd_zeros.1
  | fraction => exact Option.some.inj h ▸ isOdd_zeros.2
  | offset | zoneName => cases h
  | weekdayShort =>
    rw [Place.show?, hfull] at h
    exact Option.some.inj h ▸ hweekday.2
  | weekdayName =>
    rw [Place.show?, hfull] at h
    exact Option.some.inj h ▸ hweekday.1
  | half =>
    have hmorning : IsOdd "AM" := .inr (.inr (.inr (by decide)))
    exact Option.some.inj h ▸ hmorning

/-- A shape is one part, or begins with a day, or is one of three forms of a time. -/
theorem shapes_cases : ∀ shape ∈ shapes, (∃ p, p ≠ .point ∧ shape.1 = [p]) ∨
    (∃ rest, shape.1 = .year :: .month :: .day :: rest) ∨ shape.1 = [.hour, .minute, .second] ∨
    shape.1 = [.hour, .minute] ∨ shape.1 = [.second, .point, .fraction] := by
  simp [shapes]

theorem isOdd_of_shown? (hd : d.OnCalendar) {shape : List Place × Nat}
    (hshape : shape ∈ shapes) (hyear : shape.1 ≠ [.year]) (hmonth : shape.1 ≠ [.month])
    (hday : shape.1 ≠ [.day]) {text : String}
    (h : shown? (Stamp.ofDate d) shape.1 = some text) : IsOdd text := by
  rcases shapes_cases shape hshape with ⟨p, hpoint, hp⟩ | ⟨rest, hrest⟩ | htime | htime | htime
  · rw [hp, shown?_single] at h
    rw [hp] at hyear hmonth hday
    exact isOdd_of_show? hd hpoint (by simpa using hyear) (by simpa using hmonth)
      (by simpa using hday) h
  · rw [hrest] at h
    simp only [shown?_cons, Place.show?, Stamp.ofDate, Option.map_some, Option.bind_some,
      Option.map_map, Option.map_eq_some_iff] at h
    obtain ⟨later, -, rfl⟩ := h
    exact isOdd_day_append hd later
  · rw [htime] at h
    change shown? {} [.hour, .minute, .second] = some text at h
    exact Option.some.inj (shown?_midnight.1.symm.trans h) ▸ .inr (.inr (.inl (by decide)))
  · rw [htime] at h
    change shown? {} [.hour, .minute] = some text at h
    exact Option.some.inj (shown?_midnight.2.1.symm.trans h) ▸ .inr (.inl rfl)
  · rw [htime] at h
    change shown? {} [.second, .point, .fraction] = some text at h
    exact Option.some.inj (shown?_midnight.2.2.symm.trans h) ▸ .inr (.inr (.inl (by decide)))

theorem not_isOdd_hyphen : ¬IsOdd "-" := by
  unfold IsOdd
  decide

theorem not_isOdd_of_digits (hcs : ∀ c ∈ cs, c.isDigit = true) (hlength : cs.length ≤ 4)
    (hpos : 0 < Number.digitsToNat cs) : ¬IsOdd (String.ofList cs) := by
  have hzero : ∀ zeros : String, Number.digitsToNat zeros.toList = 0 →
      String.ofList cs ≠ zeros := by
    rintro zeros hzeros rfl
    rw [String.toList_ofList] at hzeros
    omega
  rintro (heq | heq | hlong | ⟨-, hother⟩)
  · exact hzero "00" (by decide) heq
  · exact hzero "0000" (by decide) heq
  · rw [String.length_ofList] at hlong
    omega
  · rw [String.toList_ofList, List.all_eq_true.mpr hcs] at hother
    cases hother

end

section
variable {d : Date} {ys ms ds : List Char}

def daySlots (ys ms ds : List Char) (py pm pd : List Place) : List Slot :=
  [numberSlot ys py, hyphenSlot, numberSlot ms pm, hyphenSlot, numberSlot ds pd]

theorem joinOffset_iso (h : d.Written ys ms ds) :
    joinOffset (Stamp.ofDate d) (tokens d.iso) = daySlots ys ms ds [] [] [] := by
  rw [WrittenDay.tokens_iso h]
  rfl

theorem differs_of_not_isOdd (hd : d.OnCalendar) {shape : List Place × Nat}
    (hshape : shape ∈ shapes) (hyear : shape.1 ≠ [.year]) (hmonth : shape.1 ≠ [.month])
    (hday : shape.1 ≠ [.day]) {slot : Slot} (hslot : ¬IsOdd (filled shape.2 slot)) :
    Differs (Stamp.ofDate d) shape slot :=
  fun _ htext => hslot (isOdd_of_shown? hd hshape hyear hmonth hday htext)

theorem width_le_two : ∀ shape ∈ shapes, shape.2 ≤ 2 := by decide

/-- The numbers and hyphens of a day's text show nothing but its year, its month and its day. -/
theorem daySlots_differ (hd : d.OnCalendar) (h : d.Written ys ms ds) {shape : List Place × Nat}
    (hshape : shape ∈ shapes) (hyear : shape.1 ≠ [.year]) (hmonth : shape.1 ≠ [.month])
    (hday : shape.1 ≠ [.day]) (py pm pd : List Place) :
    ∀ slot ∈ daySlots ys ms ds py pm pd, Differs (Stamp.ofDate d) shape slot := by
  have hwidth := width_le_two shape hshape
  have hys := h.length_year
  have hms := h.length_month
  have hds := h.length_day
  have hnumber : ∀ cs : List Char, (∀ c ∈ cs, c.isDigit = true) → 2 ≤ cs.length →
      cs.length ≤ 4 → 0 < Number.digitsToNat cs → ∀ places,
      Differs (Stamp.ofDate d) shape (numberSlot cs places) := by
    intro cs hcs hlong hshort hpos places
    apply differs_of_not_isOdd hd hshape hyear hmonth hday
    rw [filled_numberSlot hcs (Nat.le_trans hwidth hlong)]
    exact not_isOdd_of_digits hcs hshort hpos
  have hhyphen : Differs (Stamp.ofDate d) shape hyphenSlot :=
    differs_of_not_isOdd hd hshape hyear hmonth hday not_isOdd_hyphen
  simp only [daySlots, List.forall_mem_cons]
  refine ⟨?_, hhyphen, ?_, hhyphen, ?_, nofun⟩
  · exact hnumber ys h.isDigit_year (by omega) (by omega) (h.year ▸ hd.year_pos) py
  · exact hnumber ms h.isDigit_month (by omega) (by omega) (h.month ▸ hd.month_pos) pm
  · exact hnumber ds h.isDigit_day (by omega) (by omega) (h.day ▸ hd.day_pos) pd

theorem exists_shapes : ∃ early names late,
    shapes = early ++ ([.year], 0) :: (names ++ ([.month], 2) :: ([.day], 2) :: late) ∧
    ∀ shape ∈ early ++ names ++ late,
      shape ∈ shapes ∧ shape.1 ≠ [.year] ∧ shape.1 ≠ [.month] ∧ shape.1 ≠ [.day] :=
  ⟨shapes.take 6, (shapes.drop 7).take 3, shapes.drop 12, rfl, by decide⟩

theorem padded_year (hyear : 1000 ≤ d.year) : Date.padded 4 d.year = d.year.repr := by
  have hlong : ¬(Number.digits d.year).length ≤ 3 := by
    rw [Number.digits, Nat.length_toDigits_le_iff (by decide) (by decide)]
    omega
  rw [Date.padded, Number.padLeft, Nat.sub_eq_zero_of_le (by omega), List.replicate_zero,
    List.nil_append, Nat.repr_eq_ofList_toDigits]
  rfl

/-- Year, month and day are found one after the other, each in its own place. -/
theorem foldl_daySlots (hd : d.OnCalendar) (h : d.Written ys ms ds) (hyear : 1000 ≤ d.year) :
    shapes.foldl (findShape (Stamp.ofDate d)) (daySlots ys ms ds [] [] [], []) =
      (daySlots ys ms ds [.year] [.month] [.day], [.year, .month, .day]) := by
  obtain ⟨early, names, late, hshapes, hothers⟩ := exists_shapes
  have hpass : ∀ part : List (List Place × Nat),
      (∀ shape ∈ part, shape ∈ early ++ names ++ late) → ∀ py pm pd found,
      part.foldl (findShape (Stamp.ofDate d)) (daySlots ys ms ds py pm pd, found) =
        (daySlots ys ms ds py pm pd, found) := by
    intro part hpart py pm pd found
    apply foldl_of_differs
    intro shape hshape
    obtain ⟨hmem, hy, hm, hday⟩ := hothers shape (hpart shape hshape)
    exact daySlots_differ hd h hmem hy hm hday py pm pd
  have hyears : findShape (Stamp.ofDate d) (daySlots ys ms ds [] [] [], [])
      ([.year], 0) = (daySlots ys ms ds [.year] [] [], [.year]) := by
    refine findShape_of_taken rfl (shown?_single _ _) (take?_here rfl ?_)
    rw [filled_numberSlot h.isDigit_year (Nat.zero_le _), ← h.year_text, padded_year hyear]
    rfl
  have hhyphen : ∀ cs : List Char, cs.length = 2 → hyphenSlot.places = [] →
      filled 2 hyphenSlot ≠ String.ofList cs := by
    intro cs hlength _ heq
    rw [← String.length_ofList, ← heq] at hlength
    cases hlength
  have hmonths : findShape (Stamp.ofDate d) (daySlots ys ms ds [.year] [] [], [.year])
      ([.month], 2) = (daySlots ys ms ds [.year] [.month] [], [.year, .month]) := by
    have htaken : take? [.month] 2 (String.ofList ms) (daySlots ys ms ds [.year] [] []) =
        some (daySlots ys ms ds [.year] [.month] []) := by
      have hfilled := filled_numberSlot h.isDigit_month (Nat.le_of_eq h.length_month.symm) []
      rw [daySlots, take?_later fun hfree => absurd hfree (List.cons_ne_nil _ _),
        take?_later (hhyphen ms h.length_month), take?_here rfl hfilled]
      rfl
    exact findShape_of_taken rfl (shown?_single _ _) (h.month_text ▸ htaken)
  have hdays : findShape (Stamp.ofDate d)
      (daySlots ys ms ds [.year] [.month] [], [.year, .month]) ([.day], 2) =
        (daySlots ys ms ds [.year] [.month] [.day], [.year, .month, .day]) := by
    have htaken : take? [.day] 2 (String.ofList ds) (daySlots ys ms ds [.year] [.month] []) =
        some (daySlots ys ms ds [.year] [.month] [.day]) := by
      have hfilled := filled_numberSlot h.isDigit_day (Nat.le_of_eq h.length_day.symm) []
      rw [daySlots, take?_later fun hfree => absurd hfree (List.cons_ne_nil _ _),
        take?_later (hhyphen ds h.length_day),
        take?_later fun hfree => absurd hfree (List.cons_ne_nil _ _),
        take?_later (hhyphen ds h.length_day), take?_here rfl hfilled]
      rfl
    exact findShape_of_taken rfl (shown?_single _ _) (h.day_text ▸ htaken)
  rw [hshapes, List.foldl_append, hpass early (by simp +contextual), List.foldl_cons, hyears,
    List.foldl_append, hpass names (by simp +contextual), List.foldl_cons, hmonths,
    List.foldl_cons, hdays, hpass late (by simp +contextual)]

theorem differs_short_year (hd : d.OnCalendar) (h : d.Written ys ms ds) (hyear : d.year < 1000) :
    ∀ shape ∈ shapes, Differs (Stamp.ofDate d) shape (numberSlot ys []) := by
  intro shape hshape
  have hwidth := width_le_two shape hshape
  have hys := h.length_year
  have hms := h.length_month
  have hds := h.length_day
  have hfilled : filled shape.2 (numberSlot ys []) = String.ofList ys :=
    filled_numberSlot h.isDigit_year (by omega) []
  -- a shorter text is another one
  have hother : ∀ text : String, text.length < 4 → some text ≠ some (String.ofList ys) := by
    rintro text hshort heq
    rw [Option.some.inj heq, String.length_ofList] at hshort
    omega
  by_cases hy : shape.1 = [.year]
  · have hshort : d.year.repr.length < 4 := by
      rw [Nat.repr_eq_ofList_toDigits, String.length_ofList]
      exact Nat.lt_succ_of_le ((Nat.length_toDigits_le_iff (by decide) (by decide)).mpr hyear)
    intro _
    rw [hy, shown?_single, hfilled]
    exact hother _ hshort
  by_cases hm : shape.1 = [.month]
  · intro _
    rw [hm, shown?_single, hfilled]
    exact hother _ (by rw [h.month_text, String.length_ofList, hms]; decide)
  by_cases hday : shape.1 = [.day]
  · intro _
    rw [hday, shown?_single, hfilled]
    exact hother _ (by rw [h.day_text, String.length_ofList, hds]; decide)
  exact daySlots_differ hd h hshape hy hm hday [] [] [] _ List.mem_cons_self

def dayPieces : List Piece :=
  [.place .year, .literal "-", .place .month, .literal "-", .place .day]

theorem pieces?_daySlots :
    pieces? (daySlots ys ms ds [.year] [.month] [.day]) [.year, .month, .day] = some dayPieces :=
  rfl

end

section
variable {s s' t : Stamp} {cs cs' : List Char} {rest : List Piece}

def Reads (s : Stamp) (cs : List Char) (pieces : List Piece) (t : Stamp) : Prop :=
  ∃ more, readPieces s cs pieces = (t, []) :: more

theorem reads_nil : Reads s [] [] s := ⟨[], rfl⟩

theorem reads_place {p : Place} (hp : ∃ more, p.read s cs = (s', cs') :: more)
    (hrest : Reads s' cs' rest t) : Reads s cs (.place p :: rest) t := by
  obtain ⟨others, hp⟩ := hp
  obtain ⟨more, hrest⟩ := hrest
  refine ⟨more ++ others.flatMap fun found => readPieces found.1 found.2 rest, ?_⟩
  rw [readPieces, hp, List.flatMap_cons, ← List.cons_append, ← hrest]

theorem reads_hyphen (hrest : Reads s cs rest t) :
    Reads s ('-' :: cs) (.literal "-" :: rest) t := by
  obtain ⟨more, hrest⟩ := hrest
  have hhyphen : readLiteral "-" ('-' :: cs) = [cs] := by
    have hfirst : String.ofList (('-' :: cs).take "-".length) = "-" := rfl
    rw [readLiteral, hfirst]
    rfl
  exact ⟨more, by rw [readPieces, hhyphen, List.flatMap_singleton, hrest]⟩

theorem readPair_cons {low high oneLow n : Nat} {c c' : Char} (hc : c.isDigit = true)
    (hc' : c'.isDigit = true) (hn : Number.digitsToNat [c, c'] = n) (hlow : low ≤ n)
    (hhigh : n ≤ high) : ∃ more, readPair low high oneLow (c :: c' :: cs) = (n, cs) :: more := by
  simp [readPair, hc, hc', hn, hlow, hhigh]

end

section
variable {d : Date} {ys ms ds : List Char}

/-- The layout of a day reads its text as that day. -/
theorem match?_dayPieces (hd : d.OnCalendar) (h : d.Written ys ms ds) :
    match? dayPieces d.iso = some (Stamp.ofDate d) := by
  have hreads : Reads {} (Date.hyphenated ys ms ds) dayPieces (Stamp.ofDate d) := by
    obtain ⟨-, -, -, hys, hms, hds, hydigits, hmdigits, hddigits, hyear, hmonth, hday⟩ := h
    match ys, ms, ds, hys, hms, hds with
    | [a, b, c, e], [p, q], [u, v], _, _, _ =>
      simp only [List.forall_mem_cons] at hydigits hmdigits hddigits
      obtain ⟨ha, hb, hc, he, -⟩ := hydigits
      obtain ⟨hp, hq, -⟩ := hmdigits
      obtain ⟨hu, hv, -⟩ := hddigits
      have hyears : ∃ more, Place.read {} [a, b, c, e, '-', p, q, '-', u, v] .year =
          (({ year := some d.year } : Stamp), ['-', p, q, '-', u, v]) :: more := by
        simp [Place.read, ha, hb, hc, he, hyear]
      have hmonths : ∃ more, Place.read { year := some d.year } [p, q, '-', u, v] .month =
          (({ year := some d.year, month := some d.month } : Stamp), ['-', u, v]) :: more := by
        obtain ⟨more, hpair⟩ := readPair_cons hp hq hmonth hd.month_pos hd.month_le
        exact ⟨_, by rw [Place.read, hpair, List.map_cons]⟩
      have hdays : ∃ more, Place.read { year := some d.year, month := some d.month } [u, v] .day =
          (Stamp.ofDate d, []) :: more := by
        obtain ⟨more, hpair⟩ := readPair_cons hu hv hday hd.day_pos hd.day_le_31
        exact ⟨_, by rw [Place.read, hpair, List.cons_append, List.map_cons]; rfl⟩
      exact reads_place hyears (reads_hyphen (reads_place hmonths (reads_hyphen
        (reads_place hdays reads_nil))))
  obtain ⟨more, hreads⟩ := hreads
  rw [match?, h.iso, String.toList_ofList, h.map_plainDigit, hreads]
  simp only
  rw [hd.date?_ofDate]
  rfl

theorem ofText?_iso (hd : d.OnCalendar) (h : d.Written ys ms ds) (hyear : 1000 ≤ d.year)
    (today : Date) : ofText? d.iso today = some dayPieces := by
  simp [ofText?, WrittenDay.read?_iso hd h, joinOffset_iso h, foldl_daySlots hd h hyear,
    pieces?_daySlots, match?_dayPieces hd h]

theorem ofText?_short_year (hd : d.OnCalendar) (h : d.Written ys ms ds) (hyear : d.year < 1000)
    (today : Date) : ofText? d.iso today = none := by
  obtain ⟨rest, found, hslots⟩ := head_foldl (differs_short_year hd h hyear) _ _
  rw [ofText?, WrittenDay.read?_iso hd h, Option.bind_eq_bind, Option.bind_some, joinOffset_iso h,
    daySlots, hslots]
  have hnone : pieces? (numberSlot ys [] :: rest) found = none := pieces?_of_free rfl rfl
  simp only [hnone]
  rfl

end

end DayLayout

/-- The text of a day is read as that day. -/
theorem DayReading.ofText_iso {d : Date} (hd : d.OnCalendar) (today : Date) :
    ofText d.iso today = .day d := by
  have h := hd.written
  rw [ofText, DayText.ofText_iso hd]
  by_cases hyear : 1000 ≤ d.year
  · rw [DayLayout.ofText?_iso hd h hyear, Option.bind_some, DayLayout.match?_dayPieces hd h]
    exact ofStamp_ofDate hd
  · rw [DayLayout.ofText?_short_year hd h (Nat.lt_of_not_le hyear)]
    exact ofStamp_ofDate hd

end SalesDesk
