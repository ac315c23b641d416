import SalesDesk.Answer.Structured
import SalesDesk.Proofs.Analysis.Writable
import SalesDesk.Proofs.Answer.Counts
import SalesDesk.Proofs.Answer.Scope

/-! What a strategy needs of a request to end, either with an answer that can be written or none. -/
namespace SalesDesk

variable {α : Type}

/-- The computation succeeds, and the answer that it may give can be written. -/
def Tells (x : Except Fault (Option (Result α))) : Prop :=
  Gives x fun answer => ∀ result, answer = some result → result.Writable

theorem tells_none : Tells (.ok none : Except Fault (Option (Result α))) := gives_ok nofun

theorem tells_some {result : Result α} (h : result.Writable) : Tells (.ok (some result)) :=
  gives_ok fun _ heq => Option.some.inj heq ▸ h

theorem Gives.tells {β : Type} {P : β → Prop} {x : Except Fault β} {f : β → Result α}
    (h : Gives x P) (hf : ∀ b, P b → (f b).Writable) :
    Tells (x >>= fun b => pure (some (f b))) := h.bind fun b hb => tells_some (hf b hb)

theorem Gives.told {x : Except Fault (Result α)} (h : Gives x Result.Writable) :
    Tells (x >>= fun result => pure (some result)) := h.tells fun _ hresult => hresult

theorem tells_ite {c : Prop} [Decidable c] {x y : Except Fault (Option (Result α))}
    (hx : c → Tells x) (hy : ¬c → Tells y) : Tells (if c then x else y) := gives_ite hx hy

theorem tells_orNone {c : Prop} [Decidable c] {x : Except Fault (Option (Result α))}
    (h : ¬c → Tells x) : Tells (if c then .ok none else x) := tells_ite (fun _ => tells_none) h

theorem fits_monthsBetween {first last : Date} (hfirst : first.IsNear) (hlast : last.IsNear)
    (name : String) :
    (.count (((last.toOrdinal : Int) - first.toOrdinal) / 30) : Cell α).Fits name := by
  unfold Date.IsNear at hfirst hlast
  unfold Cell.Fits
  omega

namespace Request

/-- A question, read as it stands, about a ledger that is neither empty nor unsound. -/
structure Sound (r : Request α) : Prop extends CountsWritable r where
  dataset : r.dataset.Sound
  nonempty : r.dataset.records ≠ []
  reads : r.ReadsPeriods

namespace Sound

variable {r : Request α}

theorem gives_days (h : r.Sound) :
    Gives r.days fun span => span.1.IsNear ∧ span.2.IsNear := by
  unfold days
  split
  · rename_i span hspan
    exact gives_ok (isNear_of_dateRange h.dataset.near hspan)
  · rename_i hnone
    obtain ⟨first, rest, hrecords⟩ := List.exists_cons_of_ne_nil h.nonempty
    rw [hrecords] at hnone
    cases hnone

theorem tellable_of_mem_periods (h : r.Sound) : ∀ p ∈ r.mentions.periods, p.Tellable :=
  fun _ hp => Query.tellable_of_mem_periods (h.reads.periods ▸ hp)

theorem fits_orders (h : r.Sound) (name : String) :
    (.count r.dataset.metrics.totalOrders : Cell α).Fits name := h.dataset.orders

theorem fits_customers (h : r.Sound) (name : String) :
    (.count r.dataset.metrics.uniqueCustomers : Cell α).Fits name := h.dataset.customers

theorem fits_size (h : r.Sound) (name : String) :
    (.count r.dataset.size : Cell α).Fits name :=
  Cell.fits_count h.dataset.size name

variable [Figure α]

/-- The filters of a question never fail, and what they leave can be told apart. -/
theorem gives_filtered (h : r.Sound) (names : List (Column × String)) {period : Option Period}
    (hperiod : ∀ p, period = some p → p.Tellable) :
    Gives (r.filtered names period) fun scope => Tellable scope.rows :=
  ⟨_, r.filtered_eq names hperiod, h.dataset.tellable.filter _⟩

theorem gives_ofGroups (h : r.Sound) : Gives r.ofGroups fun scope => Tellable scope.rows :=
  h.gives_filtered _ nofun

theorem gives_inScope (h : r.Sound) : Gives r.inScope fun scope => Tellable scope.rows :=
  h.gives_filtered _ fun _ => h.reads.tellable

theorem gives_dated (h : r.Sound) : Gives r.dated fun scope => Tellable scope.rows :=
  h.gives_filtered _ fun _ => h.reads.tellable

theorem gives_named (h : r.Sound) : Gives r.named fun scope => Tellable scope.rows :=
  h.gives_filtered _ fun _ => h.reads.tellable

end Sound

end Request

namespace Query

theorem isKnown_of_grouping? {lower : String} {g : Grouping} (h : grouping? lower = some g) :
    g.IsKnown := by
  have hrules : ∀ rule ∈ groupingRules, rule.2.IsKnown := by
    simp only [groupingRules, List.forall_mem_cons]
    exact ⟨trivial, trivial, trivial, trivial, trivial, trivial, nofun⟩
  obtain ⟨rule, hrule, rfl⟩ := Option.map_eq_some_iff.mp h
  exact hrules rule (List.mem_of_find?_eq_some hrule)

end Query

namespace Answer

open Entries Result

variable {r : Request α}

theorem tells_overall (h : r.Sound) : Tells (overall r) := by
  unfold overall
  refine h.gives_days.tells fun span _ => .ofTotals ?_ rfl rfl
  exact fit_cons (Cell.fits_figure (by decide) _) <| fit_cons (h.fits_orders _) <|
    fit_cons (Cell.fits_figure (by decide) _) <| fit_cons (h.fits_customers _) <|
    fit_cons (Cell.fits_figure (by decide) _) <| fit_cons trivial <| fit_cons trivial fit_nil

theorem tells_onlyIf {test : Request α → Bool} {s : Strategy α}
    (h : test r = true → Tells (s r)) : Tells (onlyIf test s r) := tells_ite h fun _ => tells_none

theorem tells_firstAnswer {strategies : List (Strategy α)} (h : ∀ s ∈ strategies, Tells (s r)) :
    Tells (firstAnswer strategies r) := by
  induction strategies with
  | nil => exact tells_none
  | cons s rest ih =>
    obtain ⟨hs, hrest⟩ := List.forall_mem_cons.mp h
    apply hs.bind
    intro answer hanswer
    cases answer with
    | none => exact ih hrest
    | some result => exact tells_some (hanswer result rfl)

/-! The counts that stand in where a question states none. -/

theorem isWritable_rankingDefault : Number.isWritable rankingDefault = true :=
  Number.isWritable_of_lt_word (by decide)

theorem isWritable_datesDefault : Number.isWritable datesDefault = true :=
  Number.isWritable_of_lt_word (by decide)

theorem isWritable_periodLeadersLimit : Number.isWritable periodLeadersLimit = true :=
  Number.isWritable_of_lt_word (by decide)

variable [Figure α]

/-- The records of a name can be told apart, or an answer says that there are none. -/
def EntityRows.Told : EntityRows α → Prop
  | .found scope => Tellable scope.rows
  | .missing answer => answer.Writable

theorem gives_entityRows (h : r.Sound) (column : Column) (name : Option String) (kind : String) :
    Gives (entityRows r column name kind) EntityRows.Told := by
  unfold entityRows
  apply h.gives_inScope.bind
  intro scope hscope
  refine gives_ite (fun _ => gives_ok (hscope.filter _)) fun _ => ?_
  refine gives_ite (fun _ => gives_ok (.noData _ _)) fun _ => ?_
  exact gives_ok (writable_noDataFor _ _ _)

theorem tells_customer (h : r.Sound) : Tells (customer r) := by
  unfold customer
  refine tells_ite (fun _ => ?_) fun _ => tells_ite (fun _ => ?_) fun _ => tells_none
  · apply (gives_entityRows h _ _ _).bind
    intro found hfound
    cases found with
    | missing answer => exact tells_some hfound
    | found scope => exact (gives_monthWise hfound _ _).told
  · apply (gives_entityRows h _ _ _).bind
    intro found hfound
    cases found with
    | missing answer => exact tells_some hfound
    | found scope =>
      exact (gives_entitySummary hfound _ _ _ _).tells fun _ hresult =>
        hresult.retitle rfl rfl rfl rfl

theorem tells_product (h : r.Sound) : Tells (product r) := by
  unfold product
  apply (gives_entityRows h _ _ _).bind
  intro found hfound
  cases found with
  | missing answer => exact tells_some hfound
  | found scope =>
    refine tells_ite (fun _ => ?_) fun _ => ?_
    · exact (gives_topCustomersFor hfound _ (h.isWritable_countOr isWritable_rankingDefault)).told
    · exact (gives_entitySummary hfound _ _ _ _).tells fun _ hresult =>
        hresult.retitle rfl rfl rfl rfl

theorem gives_largestSales {limit : Int} (hlimit : Number.isWritable limit = true)
    (rows : List (Record α)) : Gives (largestSales limit rows) Writable :=
  (gives_topTitle hlimit _).map fun _ _ => writable_topTransactions _ _ _

theorem tells_scopedRanking (h : r.Sound) : Tells (scopedRanking r) := by
  have hlimit : Number.isWritable (r.countOr rankingDefault) = true :=
    h.isWritable_countOr isWritable_rankingDefault
  unfold scopedRanking
  apply h.gives_inScope.bind
  intro scope hscope
  have hgroups : ∀ column measure (style : RankingStyle), Number.isWritable style.limit = true →
      Tells (do return some (← groupRanking (.column column) measure scope.rows style
        scope.labels)) := fun column measure style hlimit =>
    (gives_groupRanking (Grouping.isKnown_field _) hscope _ (.inr hlimit) _).told
  refine tells_ite (fun _ => ?_) fun _ => tells_ite (fun _ => ?_) fun _ =>
    tells_ite (fun _ => ?_) fun _ => ?_
  · exact (gives_largestSales hlimit _).tells fun _ hresult => hresult.retitle rfl rfl rfl rfl
  · exact (gives_topTitle hlimit _).bind fun _ _ => hgroups _ _ _ hlimit
  · exact (gives_topTitle hlimit _).bind fun _ _ => hgroups _ _ _ hlimit
  · split
    · exact tells_none
    · rename_i hcount
      exact tells_ite (fun _ => hgroups _ _ _ (h.isWritable_count hcount)) fun _ => tells_none

theorem isKnown_customer : ∀ g, some (Grouping.column .customer) = some g → g.IsKnown :=
  fun _ hg => Option.some.inj hg ▸ Grouping.isKnown_field _

theorem tells_byRank (h : r.Sound) : Tells (byRank r) := by
  unfold byRank
  split
  · exact tells_scopedRanking h
  · rename_i p hp
    have htellable : p.Tellable := by
      apply h.tellable_of_mem_periods p
      unfold singlePeriod? at hp
      split at hp
      · rename_i heq
        cases hp
        rw [heq]
        exact List.mem_cons_self
      · cases hp
    refine tells_ite (fun _ => ?_) fun _ => tells_ite (fun _ => ?_) fun _ =>
      tells_scopedRanking h
    · exact h.gives_ofGroups.bind fun scope hscope =>
        (gives_topDates (fun _ hq => Option.some.inj hq ▸ htellable) hscope
          (h.isWritable_countOr isWritable_datesDefault)).told
    · have hlimit : Number.isWritable (r.countOr rankingDefault) = true :=
        h.isWritable_countOr isWritable_rankingDefault
      rw [htellable.written]
      exact h.gives_ofGroups.bind fun scope hscope => (gives_topTitle hlimit _).bind fun _ _ =>
        (gives_topGroupsIn htellable hscope isKnown_customer hlimit _).told

theorem tells_byComparison (h : r.Sound) (htwo : 2 ≤ r.mentions.periods.length) :
    Tells (byComparison r) := by
  unfold byComparison
  split
  · rename_i first second rest hperiods
    have hfirst : first.Tellable := h.tellable_of_mem_periods first (by simp [hperiods])
    have hsecond : second.Tellable := h.tellable_of_mem_periods second (by simp [hperiods])
    exact h.gives_ofGroups.bind fun scope hscope =>
      (gives_comparisonWithLeaders hfirst hsecond hscope _).told
  · rename_i hnone
    match hperiods : r.mentions.periods, htwo with
    | first :: second :: rest, _ => exact absurd hperiods (hnone first second rest)

theorem tells_byPeriod (h : r.Sound) (hone : r.mentions.periods.length = 1) :
    Tells (byPeriod r) := by
  unfold byPeriod
  split
  · rename_i hnone
    rw [hnone] at hone
    cases hone
  · rename_i p rest hperiods
    have htellable : p.Tellable := h.tellable_of_mem_periods p (by simp [hperiods])
    rw [htellable.written]
    exact h.gives_ofGroups.bind fun scope hscope =>
      (gives_topGroupsIn htellable hscope isKnown_customer isWritable_periodLeadersLimit _).told

theorem tells_clarification (h : r.Sound) : Tells (clarification r) := by
  unfold clarification
  refine tells_ite (fun _ => ?_) fun _ => tells_some (.words _ _)
  exact h.gives_inScope.bind fun _ _ =>
    (gives_largestSales (h.isWritable_countOr isWritable_rankingDefault) _).told

/-- The tests before comparisons and single periods make sure that the periods are there. -/
theorem tells_structured (h : r.Sound) : Tells (structured r) := by
  apply tells_firstAnswer
  simp only [List.forall_mem_cons]
  refine ⟨tells_onlyIf fun _ => tells_customer h, tells_onlyIf fun _ => tells_product h,
    tells_onlyIf fun _ => tells_byRank h, tells_onlyIf fun htest => tells_byComparison h ?_,
    tells_onlyIf fun htest => tells_byPeriod h ?_, tells_onlyIf fun _ => tells_clarification h,
    tells_onlyIf fun _ => tells_overall h, nofun⟩
  · simp only [Bool.and_eq_true, decide_eq_true_eq] at htest
    exact htest.2
  · simp only [Bool.and_eq_true, beq_iff_eq] at htest
    exact htest.2

end Answer

end SalesDesk
