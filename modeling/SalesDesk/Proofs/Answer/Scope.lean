import SalesDesk.Answer.Request
import SalesDesk.Proofs.Ledger.Agreement

/-! One question about two ledgers that agree on what the question is about. -/
namespace SalesDesk

namespace Request

variable {α : Type} {names : List (Column × String)} {period : Option Period}
  {r : Request α} {e : Dataset α}

/-- The same question, read the same way, about another ledger. -/
def about (r : Request α) (e : Dataset α) : Request α := { r with dataset := e }

@[simp] theorem asks_about (r : Request α) (e : Dataset α) (keywords : List String) :
    (r.about e).asks keywords = r.asks keywords := rfl

@[simp] theorem mentions_about (r : Request α) (e : Dataset α) :
    (r.about e).mentions = r.mentions := rfl

@[simp] theorem reading_about (r : Request α) (e : Dataset α) :
    (r.about e).reading = r.reading := rfl

@[simp] theorem lower_about (r : Request α) (e : Dataset α) : (r.about e).lower = r.lower := rfl

@[simp] theorem stated_about (r : Request α) (e : Dataset α) :
    (r.about e).stated = r.stated := rfl

@[simp] theorem countOr_about (r : Request α) (e : Dataset α) (other : Int) :
    (r.about e).countOr other = r.countOr other := rfl

theorem make_about {query : String} {d e : Dataset α} {context : Context}
    (hv : d.vocabulary = e.vocabulary) (hr : make query d context = .ok r) :
    make query e context = .ok (r.about e) := by
  unfold make at hr ⊢
  rw [← hv]
  cases hread : Query.read query d.vocabulary with
  | error f => simp [hread] at hr
  | ok reading =>
    obtain rfl : _ = r := by simpa [hread] using hr
    rfl

structure ReadsPeriods (r : Request α) : Prop where
  period : r.mentions.period = Query.firstPeriod? r.lower
  periods : r.mentions.periods = Query.periods r.lower

theorem ReadsPeriods.tellable (h : r.ReadsPeriods) {p : Period}
    (hp : r.mentions.period = some p) : p.Tellable := Query.tellable_of_firstPeriod? (h.period ▸ hp)

theorem readsPeriods_of_make {query : String} {d : Dataset α} {context : Context}
    (hr : make query d context = .ok r) : r.ReadsPeriods := by
  unfold make Query.read at hr
  cases hcount : Query.count? query with
  | error f => simp [hcount] at hr
  | ok count =>
    simp only [hcount, ok_bind, pure_eq_ok] at hr
    obtain rfl := Except.ok.inj hr
    constructor <;> dsimp only [mentions]

theorem make_fields {query : String} {d : Dataset α} {context : Context}
    (hr : make query d context = .ok r) : r.dataset = d ∧ r.lower = Text.lower query := by
  unfold make at hr
  cases hread : Query.read query d.vocabulary with
  | error f => simp [hread] at hr
  | ok reading =>
    obtain rfl : _ = r := by simpa [hread] using hr
    exact ⟨rfl, rfl⟩

theorem days_about (h : r.dataset.Agrees names period e) : (r.about e).days = r.days := by
  have hdays : dateRange e.records = dateRange r.dataset.records :=
    (dateRange_eq_of_bare h.records.bare_eq).symm
  simp only [days, about, hdays]

variable [Figure α]

theorem exists_of_seen (query : String) (rs : List (Record α)) (seen : Request α → Bool)
    (h : (do
      let d ← Dataset.ofRecords rs none
      let r ← make query d {}
      return seen r : Except Fault Bool).toOption = some true) :
    ∃ d r, Dataset.ofRecords rs none = .ok d ∧ make query d {} = .ok r ∧ seen r = true := by
  cases hd : Dataset.ofRecords rs none with
  | error f => simp [hd, Except.toOption] at h
  | ok d =>
    cases hr : make query d {} with
    | error f => simp [hd, hr, Except.toOption] at h
    | ok r => exact ⟨d, r, rfl, hr, by simpa [hd, hr, Except.toOption] using h⟩

theorem filtered_eq (r : Request α) (names : List (Column × String)) {period : Option Period}
    (hp : ∀ p, period = some p → p.Tellable) :
    r.filtered names period = .ok ⟨r.rows.filter (Filter.accepts names period),
      Filter.labels (Filter.ofMentions names period : List (Filter α))⟩ := by
  have hwritten : period.mapM Period.written = .ok (period.map Period.label) := by
    cases period with
    | none => rfl
    | some p =>
      rw [Option.mapM_some, (hp p rfl).written]
      rfl
  rw [filtered, Filter.applyAll_ofMentions names fun p h => (hp p h).known, ok_bind, hwritten]
  rfl

/-- Filters that let nothing through from outside find the same records. -/
theorem filtered_about (h : r.dataset.Agrees names period e) {names' : List (Column × String)}
    {period' : Option Period} (hp : ∀ p, period' = some p → p.Tellable)
    (hin : ∀ row : Record α, Filter.accepts names' period' row = true →
      Filter.accepts names period row = true) :
    (r.about e).filtered names' period' = r.filtered names' period' := by
  have hrows : r.rows.filter (Filter.accepts names' period') =
      (r.about e).rows.filter (Filter.accepts names' period') :=
    h.table.filter_eq (Filter.accepts names' period')
      (fun row => (Filter.accepts_bare names' period' row).symm) hin
  rw [filtered_eq r names' hp, filtered_eq _ names' hp, hrows]

end Request

section
variable {α : Type} {rs ss : List (Record α)}

theorem noDataFor_eq_of_bare (h : rs.map Record.bare = ss.map Record.bare)
    (subject operation : String) :
    (noDataFor subject operation rs : Result α) = noDataFor subject operation ss := by
  rw [noDataFor, noDataFor, dateRange_eq_of_bare h]

theorem orderCount_eq_of_bare (h : rs.map Record.bare = ss.map Record.bare) :
    orderCount rs = orderCount ss := by
  have hids : rs.map (·.masterId) = ss.map (·.masterId) :=
    map_eq_of_bare (·.masterId) (fun _ => rfl) h
  rw [orderCount, orderCount, hids]

end

/-- A sale of steel to Acme in April, and another sale. -/
def besideSteel (customer item : String) (month : Nat) (amount : Float) : List (Record Float) :=
  let sale (customer item : String) (month : Nat) (amount : Float) : Record Float :=
    { customer, item, category := "", region := "", amount, quantity := 1, masterId := .text "m1",
      date := ⟨2024, month, 2⟩ }
  [sale "Acme" "Steel" 4 100, sale customer item month amount]

def Result.revenueBits? (a : Result Float) : Option UInt64 :=
  match a.kind, a.totals with
  | .summary, ("revenue", .figure x) :: _ => some x.toBits
  | _, _ => none

theorem Result.summary_of_revenueBits? {a : Result Float} {bits : UInt64}
    (h : a.revenueBits? = some bits) : a.kind = .summary := by
  unfold revenueBits? at h
  split at h
  · assumption
  · cases h

end SalesDesk
