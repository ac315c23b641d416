import SalesDesk.Ledger.Dataset
import SalesDesk.Proofs.Ledger.Filtering
import Mathlib.Data.List.Forall2
import Mathlib.Tactic.SplitIfs

/-! Ledgers that differ in nothing but the amounts and quantities of some records. -/
namespace SalesDesk

/-- A record without its amount and its quantity. -/
def Record.bare {α : Type} (r : Record α) : Record Unit where
  customer := r.customer
  item := r.item
  category := r.category
  region := r.region
  amount := ()
  quantity := ()
  masterId := r.masterId
  date := r.date
  isSale := r.isSale
  country := r.country

section
variable {α : Type}

@[simp] theorem Record.named_bare (r : Record α) (column : Column) :
    r.bare.named column = r.named column := by
  cases column <;> rfl

theorem Filter.accepts_bare (names : List (Column × String)) (period : Option Period)
    (r : Record α) : accepts names period r.bare = accepts names period r := by
  simp only [accepts, Record.named_bare]
  rfl

/-- What is read off bare records is the same for ledgers that are the same without figures. -/
theorem map_eq_of_bare {γ : Type} {f : Record α → γ} (g : Record Unit → γ)
    (hf : ∀ r, f r = g r.bare) {rs ss : List (Record α)}
    (h : rs.map Record.bare = ss.map Record.bare) : rs.map f = ss.map f := by
  have hmap : ∀ l : List (Record α), l.map f = (l.map Record.bare).map g := fun l => by
    rw [List.map_map]
    exact List.map_congr_left fun r _ => hf r
  rw [hmap, hmap, h]

theorem length_eq_of_bare {rs ss : List (Record α)}
    (h : rs.map Record.bare = ss.map Record.bare) : rs.length = ss.length := by
  simpa using congrArg List.length h

theorem isEmpty_eq_of_bare {rs ss : List (Record α)}
    (h : rs.map Record.bare = ss.map Record.bare) : rs.isEmpty = ss.isEmpty := by
  simpa using congrArg List.isEmpty h

theorem any_eq_of_bare {p : Record α → Bool} (q : Record Unit → Bool) (hp : ∀ r, p r = q r.bare)
    {rs ss : List (Record α)} (h : rs.map Record.bare = ss.map Record.bare) :
    rs.any p = ss.any p := by
  simpa [List.any_map, Function.comp_def] using congrArg (·.any id) (map_eq_of_bare q hp h)

theorem dateRange_bare (rs : List (Record α)) : dateRange (rs.map Record.bare) = dateRange rs := by
  cases rs with
  | nil => rfl
  | cons r rest =>
    simp only [dateRange, List.map_cons, List.foldl_map]
    rfl

theorem dateRange_eq_of_bare {rs ss : List (Record α)}
    (h : rs.map Record.bare = ss.map Record.bare) : dateRange rs = dateRange ss := by
  rw [← dateRange_bare rs, h, dateRange_bare]

namespace Vocabulary

theorem namesIn_bare (rs : List (Record α)) (column : Column) :
    namesIn (rs.map Record.bare) column = namesIn rs column := by
  simp [namesIn, Function.comp_def]

theorem ofRecords_bare (rs : List (Record α)) : ofRecords (rs.map Record.bare) = ofRecords rs := by
  cases rs with
  | nil => rfl
  | cons r rest =>
    simp only [ofRecords, List.map_cons]
    simp only [← List.map_cons, namesIn_bare]
    rfl

end Vocabulary

/-- Two ledgers are the same record by record, apart from the amounts and quantities of records
that lack one of the names or lie outside the period. -/
def AgreeInside (names : List (Column × String)) (period : Option Period)
    (rs ss : List (Record α)) : Prop :=
  List.Forall₂ (fun r s => r.bare = s.bare ∧ (Filter.accepts names period r = true → r = s)) rs ss

namespace AgreeInside

variable {names : List (Column × String)} {period : Option Period} {rs ss : List (Record α)}

theorem bare_eq (h : AgreeInside names period rs ss) :
    rs.map Record.bare = ss.map Record.bare := by
  induction h with
  | nil => rfl
  | cons hrs _ ih => rw [List.map_cons, List.map_cons, hrs.1, ih]

theorem filter (h : AgreeInside names period rs ss) {p : Record α → Bool} (q : Record Unit → Bool)
    (hp : ∀ r, p r = q r.bare) : AgreeInside names period (rs.filter p) (ss.filter p) := by
  induction h with
  | nil => exact .nil
  | @cons r s rest rest' hrs _ ih =>
    have hpq : p r = p s := by rw [hp, hp, hrs.1]
    rw [List.filter_cons, List.filter_cons, ← hpq]
    split
    · exact .cons hrs ih
    · exact ih

theorem eq_of_accepts (h : AgreeInside names period rs ss)
    (hin : ∀ r ∈ rs, Filter.accepts names period r = true) : rs = ss := by
  induction h with
  | nil => rfl
  | cons hrs _ ih =>
    rw [hrs.2 (hin _ List.mem_cons_self), ih fun r hr => hin r (List.mem_cons_of_mem _ hr)]

/-- A test that looks at no figures and accepts nothing outside selects the same records. -/
theorem filter_eq (h : AgreeInside names period rs ss) {p : Record α → Bool}
    (q : Record Unit → Bool) (hp : ∀ r, p r = q r.bare)
    (hin : ∀ r, p r = true → Filter.accepts names period r = true) :
    rs.filter p = ss.filter p :=
  (h.filter q hp).eq_of_accepts fun r hr => hin r (List.of_mem_filter hr)

theorem mono {names' : List (Column × String)} {period' : Option Period}
    (h : AgreeInside names period rs ss)
    (hin : ∀ r : Record α, Filter.accepts names' period' r = true →
      Filter.accepts names period r = true) : AgreeInside names' period' rs ss :=
  List.Forall₂.imp (fun r _ hrs => ⟨hrs.1, fun hr => hrs.2 (hin r hr)⟩) h

end AgreeInside

end

namespace Dataset

variable {α : Type} {names : List (Column × String)} {period : Option Period}
  {rs ss : List (Record α)} {d e : Dataset α}

theorem agreeInside_tableOf (h : AgreeInside names period rs ss) :
    AgreeInside names period (tableOf rs) (tableOf ss) := by
  have hids : rs.map (·.masterId) = ss.map (·.masterId) :=
    map_eq_of_bare (·.masterId) (fun _ => rfl) h.bare_eq
  unfold tableOf
  rw [← hids]
  generalize IdColumn.ofIds (rs.map (·.masterId)) = column
  clear hids
  induction h with
  | nil => exact .nil
  | @cons r s rest rest' hrs _ ih =>
    refine .cons ⟨?_, fun hr => ?_⟩ ih
    · exact congrArg (fun b : Record Unit => { b with masterId := column.entry b.masterId }) hrs.1
    · rw [hrs.2 hr]

variable [Figure α]

/-- What a ledger of records without given key figures consists of. -/
structure Made (rs : List (Record α)) (d : Dataset α) : Prop where
  records : d.records = rs
  table : d.table = tableOf rs
  vocabulary : d.vocabulary = Vocabulary.ofRecords rs
  metrics : Metrics.ofRecords rs = .ok d.metrics

theorem made_of_ofRecords (h : ofRecords rs none = .ok d) : Made rs d := by
  unfold ofRecords at h
  cases hm : Metrics.ofRecords rs with
  | error f => simp [hm, bind, Except.bind] at h
  | ok m =>
    obtain rfl : _ = d := by simpa [hm] using h
    exact ⟨rfl, rfl, rfl, hm⟩

theorem totalOrders_eq_of_bare {rs ss : List (Record α)} {m n : Metrics α}
    (h : rs.map Record.bare = ss.map Record.bare) (hm : Metrics.ofRecords rs = .ok m)
    (hn : Metrics.ofRecords ss = .ok n) : m.totalOrders = n.totalOrders := by
  have hids : rs.map (·.masterId) = ss.map (·.masterId) :=
    map_eq_of_bare (·.masterId) (fun _ => rfl) h
  unfold Metrics.ofRecords at hm hn
  rw [← isEmpty_eq_of_bare h, ← hids] at hn
  split_ifs at hm hn with hempty
  · obtain rfl := Except.ok.inj hm
    obtain rfl := Except.ok.inj hn
    rfl
  · cases hc : distinctIds (rs.map (·.masterId)) with
    | error f => simp [hc, bind, Except.bind] at hm
    | ok ids =>
      obtain rfl : _ = m := by simpa [hc] using hm
      obtain rfl : _ = n := by simpa [hc] using hn
      rfl

/-- What two ledgers share that differ in the figures of some records only. -/
structure Agrees (names : List (Column × String)) (period : Option Period) (d e : Dataset α) :
    Prop where
  records : AgreeInside names period d.records e.records
  table : AgreeInside names period d.table e.table
  vocabulary : d.vocabulary = e.vocabulary
  orders : d.metrics.totalOrders = e.metrics.totalOrders

theorem agrees_of_ofRecords (h : AgreeInside names period rs ss) (hd : ofRecords rs none = .ok d)
    (he : ofRecords ss none = .ok e) : Agrees names period d e where
  records := by
    rw [(made_of_ofRecords hd).records, (made_of_ofRecords he).records]
    exact h
  table := by
    rw [(made_of_ofRecords hd).table, (made_of_ofRecords he).table]
    exact agreeInside_tableOf h
  vocabulary := by
    rw [(made_of_ofRecords hd).vocabulary, (made_of_ofRecords he).vocabulary,
      ← Vocabulary.ofRecords_bare rs, h.bare_eq, Vocabulary.ofRecords_bare]
  orders :=
    totalOrders_eq_of_bare h.bare_eq (made_of_ofRecords hd).metrics (made_of_ofRecords he).metrics

end Dataset

end SalesDesk
