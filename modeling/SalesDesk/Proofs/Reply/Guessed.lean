import SalesDesk.Proofs.Value.Escapes
import SalesDesk.Proofs.Value.Texts
import SalesDesk.Proofs.Value.Written
import SalesDesk.Reply.Currency
import Mathlib.Data.List.Find

/-!
The currency that is guessed from records. Where no country among the first ten records is known,
their texts decide, the names of their fields included: the names and the sign of a currency are
looked for in small letters and as fragments, also inside of words.
-/
namespace SalesDesk

namespace Currency

def markers (c : Currency) : List String := [Text.lower c.unit, Text.lower c.code, c.symbol]

/-- The fragments that show a currency: its names and its sign, and what an escape completes to one
of them. -/
def fragments (c : Currency) : List String :=
  c.markers.flatMap fun marker => (Json.spellings marker.toList).map String.ofList

/-- Does a fragment of the text in small letters show the currency? -/
def isFragmentIn (c : Currency) (s : String) : Bool :=
  c.fragments.any (Text.hasFragment (Text.lower s))

/-- Is a name of the currency a whole word of the text in small letters, or does its sign stand
there? -/
def isNamedIn (c : Currency) (s : String) : Bool :=
  [Text.lower c.unit, c.units, Text.lower c.code].any (Text.hasPhrase (Text.lower s)) ||
    s.toList.contains c.sign

/-- The known currencies, the one that is looked for first at the head. -/
def known : List Currency := [rupee, dollar]

theorem isFragmentIn_iff {c : Currency} {s : String} : c.isFragmentIn s = true ↔
    ∃ marker ∈ c.markers, ∃ spelling ∈ Json.spellings marker.toList,
      spelling <:+: (Text.lower s).toList := by
  simp only [isFragmentIn, fragments, List.any_flatMap, List.any_map, List.any_eq_true,
    Function.comp_apply, Text.hasFragment_iff, String.toList_ofList]

example : rupee.fragments = ["rupee", "\x0dupee", "inr", "₹"] := by decide +kernel

example : dollar.fragments = ["dollar", "\x1dollar", "usd", "$"] := by decide +kernel

theorem markers_proper : ∀ c ∈ known, ∀ marker ∈ c.markers, Text.Sigmaless marker.toList ∧
    Json.Unescaped marker.toList ∧ Json.InTextsOnly marker.toList ∧ marker.toList ≠ ['u'] := by
  have hproper : ∀ c ∈ known, ∀ marker ∈ c.markers, Text.Sigmaless marker.toList ∧
      marker.toList.all (fun c => !Json.isEscaped c && c != '0' && c != '1') = true ∧
      Json.marks.all (!marker.toList.contains ·) = true ∧
      (∀ word ∈ Json.words, ¬marker.toList <:+: Text.smallLetters word.toList) ∧
      marker.toList.any (!Number.inNumber ·) = true ∧ marker.toList ≠ ['u'] := by
    unfold Text.Sigmaless
    decide +kernel
  intro c hc marker hmarker
  obtain ⟨hsigma, hescape, hmarks, hwords, hnumber, hcode⟩ := hproper c hc marker hmarker
  simp only [List.all_eq_true, List.any_eq_true, Bool.and_eq_true, Bool.not_eq_true', bne_iff_ne,
    List.contains_eq_mem, decide_eq_false_iff_not, and_assoc] at hescape hmarks hnumber
  obtain ⟨odd, hodd, hout⟩ := hnumber
  exact ⟨hsigma, hescape, ⟨List.ne_nil_of_mem hodd, hmarks, hwords, odd, hodd, hout⟩, hcode⟩

end Currency

namespace Reply

open Currency

/-- The currency that the JSON text of a value speaks of is the first one that some text in the
value does. -/
theorem byMarkers?_line (v : Value) : byMarkers? (Text.lower (Json.line v)) =
    known.find? fun c => v.texts.any c.isFragmentIn := by
  apply List.find?_congr
  intro c hc
  have hmarker : ∀ marker ∈ c.markers,
      (Text.hasFragment (Text.lower (Json.line v)) marker = true ↔
        ∃ s ∈ v.texts, ∃ spelling ∈ Json.spellings marker.toList,
          spelling <:+: (Text.lower s).toList) := by
    intro marker hmarker
    obtain ⟨hsigma, hescape, hjson, hcode⟩ := markers_proper c hc marker hmarker
    have htext := Json.infix_lower_textOf hsigma hescape hcode hjson.ne_nil
    rw [Text.hasFragment_iff, Text.infix_lower hsigma, hjson.infix_line v]
    simp only [← Text.infix_lower hsigma, htext]
  rw [Bool.eq_iff_iff, List.any_eq_true, List.any_eq_true]
  simp only [isFragmentIn_iff]
  constructor
  · rintro ⟨marker, hmem, hstands⟩
    obtain ⟨s, hs, hspelling⟩ := (hmarker marker hmem).mp hstands
    exact ⟨s, hs, marker, hmem, hspelling⟩
  · rintro ⟨s, hs, marker, hmem, hspelling⟩
    exact ⟨marker, hmem, (hmarker marker hmem).mpr ⟨s, hs, hspelling⟩⟩

/-- The records that are looked at. -/
def sampleOf (records : List (Entries Value)) : List (Entries Value) := records.take currencySample

/-- The texts in the records that are looked at, the names of fields included. -/
def sampleTexts (records : List (Entries Value)) : List String := (listed (sampleOf records)).texts

/-- The currency that records show. -/
def guess? (records : List (Entries Value)) : Option Currency :=
  (byVotes? (votes (sampleOf records))).or
    (known.find? fun c => (sampleTexts records).any c.isFragmentIn)

theorem currencyOf_eq (records : List (Entries Value)) (other : String) :
    currencyOf records other = ((guess? records).map Currency.symbol).getD other := by
  rw [guess?, sampleTexts, ← byMarkers?_line]
  rfl

theorem guess?_eq_none_iff (records : List (Entries Value)) : guess? records = none ↔
    (∀ r ∈ sampleOf records, ofCountry? (countryOf r) = none) ∧
      ∀ c ∈ known, ∀ s ∈ sampleTexts records, c.isFragmentIn s = false := by
  rw [guess?, Option.or_eq_none_iff, byVotes?, Option.map_eq_none_iff, List.head?_eq_none_iff,
    votes, List.filterMap_eq_nil_iff, List.find?_eq_none]
  simp only [Bool.not_eq_true, List.any_eq_false]

theorem currencyOf_eq_other_iff (records : List (Entries Value)) :
    (∀ other, currencyOf records other = other) ↔ guess? records = none := by
  simp only [currencyOf_eq]
  constructor
  · intro hother
    by_contra hsome
    obtain ⟨c, hc⟩ := Option.ne_none_iff_exists'.mp hsome
    have hempty : c.symbol = "" := by simpa [hc] using hother ""
    simpa [Currency.symbol] using congrArg String.length hempty
  · intro hnone other
    rw [hnone]
    rfl

/-- Is an integer met that is too long to be written? The countries are always read, the rest of the
records only where no country is known. -/
def MeetsLongInteger (records : List (Entries Value)) : Prop :=
  (∃ r ∈ sampleOf records, (countryOf r).holdsLongInteger = true) ∨
    (∀ r ∈ sampleOf records, ofCountry? (countryOf r) = none) ∧
      (listed (sampleOf records)).holdsLongInteger = true

section
variable {records : List (Entries Value)}

theorem holdsLongInteger_countries :
    (Value.list ((sampleOf records).map countryOf)).holdsLongInteger = true ↔
      ∃ r ∈ sampleOf records, (countryOf r).holdsLongInteger = true := by
  rw [Value.holdsLongInteger_list, List.any_map, List.any_eq_true]
  rfl

theorem isEmpty_votes : (votes (sampleOf records)).isEmpty = true ↔
    ∀ r ∈ sampleOf records, ofCountry? (countryOf r) = none := by
  rw [List.isEmpty_iff, votes, List.filterMap_eq_nil_iff]

theorem short_countryOf (h : (listed (sampleOf records)).holdsLongInteger = false) :
    ∀ r ∈ sampleOf records, (countryOf r).holdsLongInteger = false := by
  intro r hr
  rw [listed, Value.holdsLongInteger_list, List.any_map, List.any_eq_false] at h
  have hobject : (Value.object r).holdsLongInteger = false := by simpa using h r hr
  rw [Value.holdsLongInteger_object, List.any_eq_false] at hobject
  unfold countryOf Value.field?
  cases hfound : r.reverse.find? (·.1 == "country") with
  | none => simp [Value.holdsLongInteger]
  | some f =>
    simpa using hobject f (List.mem_reverse.mp (List.mem_of_find?_eq_some hfound))

theorem meets_none_of_short (h : (listed (sampleOf records)).holdsLongInteger = false) :
    ¬MeetsLongInteger records := by
  rintro (⟨r, hr, hlong⟩ | ⟨-, hlong⟩)
  · rw [short_countryOf h r hr] at hlong
    cases hlong
  · rw [h] at hlong
    cases hlong

theorem currency_of_meets_none (h : ¬MeetsLongInteger records) (other : String) :
    currency records other = .ok (currencyOf records other) := by
  obtain ⟨hcountries, hrest⟩ := not_or.mp h
  rw [← holdsLongInteger_countries, Bool.not_eq_true] at hcountries
  rw [← isEmpty_votes, not_and, Bool.not_eq_true] at hrest
  unfold currency
  simp only [show records.take currencySample = sampleOf records from rfl,
    Value.written_of_short hcountries, ok_bind]
  split_ifs with hvotes
  · exact Value.written_of_short (hrest hvotes) _
  · rfl

theorem currency_of_meets (h : MeetsLongInteger records) (other : String) :
    currency records other = .error (.tooManyDigits none) := by
  unfold currency
  simp only [show records.take currencySample = sampleOf records from rfl]
  cases hcountries : (Value.list ((sampleOf records).map countryOf)).holdsLongInteger with
  | true => rw [Value.written_of_long hcountries, error_bind]
  | false =>
    obtain ⟨hunknown, hlong⟩ := h.resolve_left fun hcountry => by
      rw [holdsLongInteger_countries.mpr hcountry] at hcountries
      cases hcountries
    rw [Value.written_of_short hcountries, ok_bind, if_pos (isEmpty_votes.mpr hunknown)]
    exact Value.written_of_long hlong _

end

/-- Only the first ten records count. They are taken to be in the other currency, whichever it is,
exactly if none of their countries is known, no name or sign of a known currency is a fragment of
any of their texts, and they can all be written. No currency is told where an integer is met that
cannot be written. -/
theorem currency_eq_other_iff (records : List (Entries Value)) :
    (∀ other, currency records other = currency (sampleOf records) other) ∧
    ((∀ other, currency records other = .ok other) ↔
      (∀ r ∈ sampleOf records, ofCountry? (countryOf r) = none) ∧
      (∀ c ∈ known, ∀ s ∈ sampleTexts records, c.isFragmentIn s = false) ∧
      (listed (sampleOf records)).holdsLongInteger = false) ∧
    ∀ other f, currency records other = .error f ↔
      f = .tooManyDigits none ∧ MeetsLongInteger records := by
  refine ⟨fun other => ?_, ?_, fun other f => ?_⟩
  · unfold currency currencyOf sampleOf
    simp only [List.take_take, Nat.min_self]
  · rw [← and_assoc, ← guess?_eq_none_iff]
    constructor
    · intro hother
      have hmeets : ¬MeetsLongInteger records := fun hmeets => by
        simpa [currency_of_meets hmeets] using hother ""
      have hguess : guess? records = none := (currencyOf_eq_other_iff records).mp fun other => by
        simpa [currency_of_meets_none hmeets] using hother other
      refine ⟨hguess, Bool.not_eq_true _ ▸ fun hlong => hmeets (.inr ⟨?_, hlong⟩)⟩
      exact ((guess?_eq_none_iff records).mp hguess).1
    · rintro ⟨hguess, hshort⟩ other
      rw [currency_of_meets_none (meets_none_of_short hshort),
        (currencyOf_eq_other_iff records).mpr hguess]
  · by_cases hmeets : MeetsLongInteger records
    · rw [currency_of_meets hmeets]
      simp [hmeets, eq_comm]
    · rw [currency_of_meets_none hmeets]
      simp [hmeets]

/-- One sale to a customer with a name that has the letters of a code inside. -/
def winrock : List (Entries Value) := [[("customer", .text "Winrock")]]

/-- The currency is guessed from inside the name, though no country is known and no text names
it. -/
theorem winrock_in_rupees : (∀ r ∈ sampleOf winrock, ofCountry? (countryOf r) = none) ∧
    (∀ c ∈ known, ∀ s ∈ sampleTexts winrock, c.isNamedIn s = false) ∧
    currency winrock "€" = .ok "₹" := by
  have hunknown : (∀ r ∈ sampleOf winrock, ofCountry? (countryOf r) = none) ∧
      (∀ c ∈ known, ∀ s ∈ sampleTexts winrock, c.isNamedIn s = false) ∧
      currencyOf winrock "€" = "₹" := by
    decide +kernel
  have hshort : (listed (sampleOf winrock)).holdsLongInteger = false := by
    rw [listed, Value.holdsLongInteger_list]
    simp [winrock, sampleOf, currencySample, Value.holdsLongInteger, Value.fieldsHoldLong]
  rw [currency_of_meets_none (meets_none_of_short hshort), hunknown.2.2]
  exact ⟨hunknown.1, hunknown.2.1, rfl⟩

end Reply

end SalesDesk
