import SalesDesk.Analysis.Totals
import SalesDesk.Proofs.Number.Range
import SalesDesk.Proofs.Report.Rendered

/-! Answers that can be put into words: every value is of a kind that its name asks for. -/
namespace SalesDesk

variable {α : Type}

namespace Format

/-- Is a value of this name written without a format of its own? -/
def isPlain (name : String) : Bool := (kinds.lookup (stem name)).isNone

def isCount (name : String) : Bool := (kinds.lookup (stem name)) matches some .count

end Format

/-- Can the value be written under the name? Counts must fit into a machine word with a sign, which
also makes them small enough for a double. -/
def Cell.Fits (name : String) : Cell α → Prop
  | .absent | .day _ => True
  | .figure _ => Format.isCount name = false
  | .count n => n.natAbs < 0x8000000000000000
  | .text _ => Format.isPlain name = true
  | .given _ => False

def Entries.Fit (entries : Entries (Cell α)) : Prop := ∀ e ∈ entries, e.2.Fits e.1

theorem Cell.fits_figure {name : String} (h : Format.isCount name = false) (x : α) :
    (Cell.figure x).Fits name := h

theorem Cell.fits_ofFigure? {name : String} (h : Format.isCount name = false) (x : Option α) :
    (Cell.ofFigure? x).Fits name := by
  cases x with
  | none => trivial
  | some x => exact h

theorem Cell.fits_count {n : Nat} (h : n < 0x8000000000000000) (name : String) :
    (Cell.count n : Cell α).Fits name := h

theorem Cell.fits_text {name : String} (h : Format.isPlain name = true) (s : String) :
    (Cell.text s : Cell α).Fits name := h

theorem Entries.Fit.lookup {entries : Entries (Cell α)} (h : Entries.Fit entries) {name : String}
    {v : Cell α} (hv : List.lookup name entries = some v) : v.Fits name := by
  obtain ⟨before, after, rfl, -⟩ := List.lookup_eq_some_iff.mp hv
  exact h (name, v) (by simp)

theorem Entries.fit_nil : Entries.Fit ([] : Entries (Cell α)) := nofun

theorem Entries.fit_cons {name : String} {cell : Cell α} {rest : Entries (Cell α)}
    (h : cell.Fits name) (hrest : Entries.Fit rest) : Entries.Fit ((name, cell) :: rest) :=
  List.forall_mem_cons.mpr ⟨h, hrest⟩

inductive Result.Writable : Result α → Prop
  | intro {r : Result α} (totals : Entries.Fit r.totals) (rows : ∀ row ∈ r.rows, Entries.Fit row)
    (columns : r.rows ≠ [] → r.columns ≠ []) (sections : ∀ s ∈ r.sections, s.Writable) :
    Writable r

namespace Result.Writable

theorem ofTotals {r : Result α} (totals : Entries.Fit r.totals) (hrows : r.rows = [])
    (hsections : r.sections = []) : r.Writable :=
  ⟨totals, by simp [hrows], fun hne => absurd hrows hne, by simp [hsections]⟩

theorem ofRows {r : Result α} (rows : ∀ row ∈ r.rows, Entries.Fit row) (hcolumns : r.columns ≠ [])
    (htotals : r.totals = []) (hsections : r.sections = []) : r.Writable :=
  ⟨by rw [htotals]; exact Entries.fit_nil, rows, fun _ => hcolumns, by simp [hsections]⟩

theorem ofSections {r : Result α} (sections : ∀ s ∈ r.sections, s.Writable)
    (htotals : r.totals = []) (hrows : r.rows = []) : r.Writable :=
  ⟨by rw [htotals]; exact Entries.fit_nil, by simp [hrows], fun hne => absurd hrows hne, sections⟩

theorem pair {r s : Result α} (hr : r.Writable) (hs : s.Writable) : ∀ t ∈ [r, s], t.Writable :=
  List.forall_mem_cons.mpr ⟨hr, List.forall_mem_singleton.mpr hs⟩

theorem retitle {r s : Result α} (h : r.Writable) (htotals : s.totals = r.totals)
    (hrows : s.rows = r.rows) (hcolumns : s.columns = r.columns)
    (hsections : s.sections = r.sections) : s.Writable := by
  obtain ⟨totals, rows, columns, sections⟩ := h
  exact ⟨htotals ▸ totals, hrows ▸ rows, by rwa [hrows, hcolumns], hsections ▸ sections⟩

theorem words (message operation : String) : (Result.words message operation : Result α).Writable :=
  .ofTotals Entries.fit_nil rfl rfl

theorem noData (message operation : String) :
    (Result.noData message operation : Result α).Writable :=
  .ofTotals Entries.fit_nil rfl rfl

end Result.Writable

theorem gives_orNoData {c : Prop} [Decidable c] {message operation : String}
    {x : Except Fault (Result α)} (h : ¬c → Gives x Result.Writable) :
    Gives (if c then .ok (.noData message operation) else x) Result.Writable :=
  gives_ite (fun _ => gives_ok (.noData message operation)) h

namespace Format

theorem gives_ofInt {n : Int} (h : n.natAbs < Number.overflow) :
    Gives (ofInt n) fun x => x.isFinite = true := by
  obtain ⟨hsome, hfinite⟩ := Number.ofInt?_eq_some h
  exact ⟨Number.ofInt n, by rw [ofInt, hsome], hfinite⟩

theorem lt_overflow_of_fits {name : String} {n : Int} (h : (Cell.count n : Cell Float).Fits name) :
    n.natAbs < Number.overflow :=
  Number.lt_overflow (Nat.lt_trans h (by decide))

theorem gives_figure? {name : String} {v : Cell Float} (h : v.Fits name) :
    Gives (figure? v) fun _ => True := by
  cases v with
  | count n =>
    exact (gives_ofInt (lt_overflow_of_fits h)).map fun _ _ => trivial
  | given v => exact h.elim
  | _ => exact gives_ok trivial

theorem gives_currency (s : Style) {v : Cell Float} (h : Gives (figure? v) fun _ => True)
    (htext : ∀ t, v ≠ .text t) : Gives (currency s v) fun _ => True := by
  apply h.bind
  intro found _
  cases found with
  | none => exact gives_ok trivial
  | some x =>
    cases v with
    | text t => exact absurd rfl (htext t)
    | _ => exact gives_ok trivial

theorem gives_count (s : Style) {name : String} {v : Cell Float} (h : v.Fits name)
    (hcount : isCount name = true) (htext : ∀ t, v ≠ .text t) :
    Gives (count s v) fun _ => True := by
  cases v with
  | absent | day _ => exact gives_ok trivial
  | figure x => exact absurd (hcount.symm.trans h) (by decide)
  | count n =>
    apply (gives_figure? h).bind
    intro found _
    cases found with
    | none => exact gives_ok trivial
    | some x => exact (gives_ofInt (lt_overflow_of_fits h)).map fun _ _ => trivial
  | text t => exact absurd rfl (htext t)
  | given v => exact h.elim

theorem gives_written {name : String} {v : Cell Float} (h : v.Fits name) (text : String) :
    Gives (written v text) fun _ => True := by
  have hshort : (valueOf v).holdsLongInteger = false := by
    cases v with
    | absent | figure | text | day => rfl
    | count n =>
      rw [valueOf, Number.holdsLongInteger_int, Number.isWritable_of_lt_word h]
      rfl
    | given v => exact h.elim
  exact ⟨text, Value.written_of_short hshort text, trivial⟩

theorem gives_entry (s : Style) {name : String} {v : Cell Float} (h : v.Fits name) :
    Gives (entry s name v) fun _ => True := by
  have hfigure := gives_figure? h
  have htext : ∀ {kind}, kinds.lookup (stem name) = some kind → ∀ t, v ≠ .text t := by
    rintro kind hkind t rfl
    simp [Cell.Fits, isPlain, hkind] at h
  unfold entry
  split
  · exact gives_currency s hfigure (htext ‹_›)
  · apply hfigure.bind
    intro found _
    cases found <;> exact gives_ok trivial
  · apply hfigure.bind
    intro found _
    cases found <;> exact gives_ok trivial
  · rename_i hkind
    exact gives_count s h (by simp [isCount, hkind]) (htext hkind)
  · apply hfigure.bind
    intro found _
    cases found <;> exact gives_ok trivial
  · exact gives_written h _
  · exact gives_written h _

end Format

theorem Entries.Fit.rowValue {row : Entries (Cell Float)} (h : Entries.Fit row) (column : String) :
    (Render.rowValue row column).Fits column := by
  unfold Render.rowValue
  cases hv : row.lookup column with
  | none => trivial
  | some v => exact h.lookup hv

namespace Result

theorem Writable.fits {r : Result Float} (h : r.Writable) {name : String} {v : Cell Float}
    (hshows : r.Shows name v) : v.Fits name := by
  induction hshows with
  | @here r _ _ hmem =>
    obtain ⟨totals, rows, -, -⟩ := h
    have hshown : ∀ e ∈ r.shown, e.2.Fits e.1 := by
      cases hkind : r.kind with
      | noData => exact forall_mem_shown_noData hkind _ fun _ _ _ => totals.lookup
      | message | composite =>
        rw [shown, hkind]
        exact List.forall_mem_nil _
      | table =>
        exact (forall_mem_shown_table hkind _).mpr
          ⟨fun row hrow column _ => (rows row hrow).rowValue column, totals⟩
      | summary =>
        rw [shown, hkind]
        exact totals
    exact hshown _ hmem
  | within _ hpart _ ih =>
    obtain ⟨-, -, -, sections⟩ := h
    exact ih (sections _ hpart)

theorem Writable.not_lacksColumns {r : Result Float} (h : r.Writable) : ¬r.LacksColumns := by
  intro hlacks
  induction hlacks with
  | here _ _ hrows hcolumns =>
    obtain ⟨-, -, columns, -⟩ := h
    exact columns hrows hcolumns
  | within _ hpart _ ih =>
    obtain ⟨-, -, -, sections⟩ := h
    exact ih (sections _ hpart)

theorem Writable.gives_render (s : Style) {r : Result Float} (h : r.Writable) :
    Gives (r.render s) fun _ => True := by
  refine (gives_render_shown s r (fun name v hshows => ?_) h.not_lacksColumns).mono
    fun _ _ => trivial
  obtain ⟨t, ht, -⟩ := Format.gives_entry s (h.fits hshows)
  exact ⟨t, ht⟩

end Result

end SalesDesk
