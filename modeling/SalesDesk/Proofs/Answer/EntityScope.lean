import SalesDesk.Proofs.Answer.Route
import SalesDesk.Proofs.Answer.Scope

/-!
The figures of an answer by intent come from the records that have the names its route goes by.
-/
namespace SalesDesk.Answer

variable {α : Type}

/-- A record with the name of a column and the names of further ones has all of these names. -/
theorem accepts_namesIn_cons {r : Request α} {period : Option Period} {column : Column}
    {columns : List Column} {row : Record α}
    (hname : hasName column (r.mentions.names.get column) row = true)
    (hrow : Filter.accepts (r.namesIn columns) period row = true) :
    Filter.accepts (r.namesIn (column :: columns)) none row = true := by
  simp only [Filter.accepts, Bool.and_eq_true, List.all_eq_true] at hrow ⊢
  refine ⟨fun n hn => ?_, rfl⟩
  obtain ⟨hmem, hcolumn⟩ := List.mem_filter.mp hn
  rcases List.mem_cons.mp (List.contains_iff_mem.mp hcolumn) with hfirst | hrest
  · obtain ⟨c, -, hc⟩ := List.mem_filterMap.mp hmem
    obtain ⟨name, hget, rfl⟩ := Option.map_eq_some_iff.mp hc
    obtain rfl : c = column := hfirst
    rw [hasName, (Option.filter_eq_some_iff.mp hget).1] at hname
    exact beq_iff_eq.mpr (Option.some.inj (eq_of_beq hname)).symm
  · exact hrow.1 n (List.mem_filter.mpr ⟨hmem, List.contains_iff_mem.mpr hrest⟩)

variable [Figure α]

section
variable {names : List (Column × String)} {period : Option Period} {r : Request α} {e : Dataset α}

/-- Ledgers that agree on the named stock group and region have the same records of them. -/
theorem ofGroups_about (h : r.dataset.Agrees (r.namesIn [.category, .region]) none e) :
    (r.about e).ofGroups = r.ofGroups :=
  Request.filtered_about h nofun fun _ hrow => hrow

theorem inScope_about (h : r.dataset.Agrees (r.namesIn [.category, .region]) none e)
    (hr : r.ReadsPeriods) : (r.about e).inScope = r.inScope :=
  Request.filtered_about h (fun _ => hr.tellable) fun _ => Filter.accepts_of_period

/-- The records of a name are the same if those of them in the scope of the question are. -/
theorem entityRows_about (h : r.dataset.Agrees names period e) (hr : r.ReadsPeriods)
    (column : Column) (name : Option String) (kind : String)
    (hin : ∀ row : Record α, hasName column name row = true →
      Filter.accepts (r.namesIn [.category, .region]) r.mentions.period row = true →
      Filter.accepts names period row = true) :
    entityRows (r.about e) column name kind = entityRows r column name kind := by
  have hfound : (r.rows.filter (Filter.accepts (r.namesIn [.category, .region])
      r.mentions.period)).filter (hasName column name) =
      ((r.about e).rows.filter (Filter.accepts (r.namesIn [.category, .region])
        r.mentions.period)).filter (hasName column name) := by
    rw [List.filter_filter, List.filter_filter]
    refine h.table.filter_eq (fun row => hasName column name row &&
      Filter.accepts (r.namesIn [.category, .region]) r.mentions.period row)
      (fun row => ?_) fun row hrow => ?_
    · simp [hasName, Filter.accepts_bare]
    · simp only [Bool.and_eq_true] at hrow
      exact hin row hrow.1 hrow.2
  have hany : (r.about e).rows.any (hasName column name) = r.rows.any (hasName column name) :=
    (any_eq_of_bare (hasName column name) (fun row => by simp [hasName]) h.table.bare_eq).symm
  have hnone : ∀ subject, (noDataFor subject "" (r.about e).rows : Result α) =
      noDataFor subject "" r.rows := fun subject =>
    (noDataFor_eq_of_bare h.table.bare_eq subject "").symm
  have hvocabulary : (r.about e).dataset.vocabulary = r.dataset.vocabulary := h.vocabulary.symm
  have hnames : (r.about e).namesIn [.category, .region] = r.namesIn [.category, .region] := rfl
  simp only [entityRows, Request.inScope, Request.filtered_eq _ _ (fun _ => hr.tellable),
    Request.mentions_about, Request.Scope.title, hnames, ok_bind, pure_eq_ok, hfound, hany, hnone,
    hvocabulary]

theorem customer_about (h : entityRows (r.about e) .customer r.mentions.names.customer "customers" =
    entityRows r .customer r.mentions.names.customer "customers") :
    customer (r.about e) = customer r := by
  simp only [customer, Request.mentions_about, Request.reading_about, h]

theorem product_about (h : entityRows (r.about e) .item r.mentions.names.item "products" =
    entityRows r .item r.mentions.names.item "products") : product (r.about e) = product r := by
  simp only [product, Request.mentions_about, Request.asks_about, Request.countOr_about, h]
  rfl

theorem scopedRanking_about (h : (r.about e).inScope = r.inScope) :
    scopedRanking (r.about e) = scopedRanking r := by
  simp only [scopedRanking, Request.mentions_about, Request.asks_about, Request.countOr_about, h]
  rfl

theorem clarification_about (h : (r.about e).inScope = r.inScope) :
    clarification (r.about e) = clarification r := by
  simp only [clarification, Request.asks_about, Request.countOr_about, h]
  rfl

theorem byRank_about (hscope : (r.about e).inScope = r.inScope)
    (hgroups : (r.about e).ofGroups = r.ofGroups) : byRank (r.about e) = byRank r := by
  have hsingle : singlePeriod? (r.about e) = singlePeriod? r := rfl
  simp only [byRank, hsingle, Request.asks_about, Request.countOr_about, hgroups,
    scopedRanking_about hscope]

theorem byComparison_about (hgroups : (r.about e).ofGroups = r.ofGroups) :
    byComparison (r.about e) = byComparison r := by
  simp only [byComparison, Request.mentions_about, hgroups]

theorem byPeriod_about (hgroups : (r.about e).ofGroups = r.ofGroups) :
    byPeriod (r.about e) = byPeriod r := by
  simp only [byPeriod, Request.mentions_about, hgroups]

end

/-- The figures of an answer by intent come from the records with the names that its route goes by:
no other amounts and quantities change the answer. -/
theorem structured_eq_of_agreeInside {query : String} {context : Context} {rs ss : List (Record α)}
    {d e : Dataset α} {r : Request α} (hd : Dataset.ofRecords rs none = .ok d)
    (he : Dataset.ofRecords ss none = .ok e) (hr : Request.make query d context = .ok r)
    (h : AgreeInside (r.namesIn (route r).columns) none rs ss) :
    ∃ s, Request.make query e context = .ok s ∧ structured s = structured r := by
  have hagrees : r.dataset.Agrees (r.namesIn (route r).columns) none e := by
    rw [(Request.make_fields hr).1]
    exact Dataset.agrees_of_ofRecords h hd he
  have hreads := Request.readsPeriods_of_make hr
  refine ⟨r.about e, Request.make_about ?_ hr, ?_⟩
  · rw [← hagrees.vocabulary, (Request.make_fields hr).1]
  have hroute : route (r.about e) = route r := rfl
  rw [structured_eq_route, structured_eq_route, hroute]
  cases hroute : route r with
  | customer =>
    rw [hroute] at hagrees
    exact customer_about (entityRows_about hagrees hreads _ _ _ fun _ => accepts_namesIn_cons)
  | product =>
    rw [hroute] at hagrees
    exact product_about (entityRows_about hagrees hreads _ _ _ fun _ => accepts_namesIn_cons)
  | ranking =>
    rw [hroute] at hagrees
    exact byRank_about (inScope_about hagrees hreads) (ofGroups_about hagrees)
  | comparison =>
    rw [hroute] at hagrees
    exact byComparison_about (ofGroups_about hagrees)
  | period =>
    rw [hroute] at hagrees
    exact byPeriod_about (ofGroups_about hagrees)
  | clarification =>
    rw [hroute] at hagrees
    exact clarification_about (inScope_about hagrees hreads)
  | overall =>
    -- No name narrows this answer, so the ledgers are the same.
    rw [hroute] at h
    obtain rfl : rs = ss := h.eq_of_accepts fun row _ => by
      simp [Filter.accepts, Request.namesIn, Route.columns]
    obtain rfl : d = e := Except.ok.inj (hd.symm.trans he)
    rw [← (Request.make_fields hr).1]
    rfl
  | pass => rfl

theorem structured_eq_of_agreeInside_acme : ∃ d e r,
    Dataset.ofRecords (besideSteel "Zen" "Steel" 4 0) none = .ok d ∧
    Dataset.ofRecords (besideSteel "Zen" "Steel" 4 50) none = .ok e ∧
    Request.make "tell me about acme" d {} = .ok r ∧
    AgreeInside (r.namesIn (route r).columns) none (besideSteel "Zen" "Steel" 4 0)
      (besideSteel "Zen" "Steel" 4 50) ∧
    ∃ s, Request.make "tell me about acme" e {} = .ok s ∧ structured s = structured r := by
  obtain ⟨d, r, hd, hr, hnames⟩ := Request.exists_of_seen "tell me about acme"
    (besideSteel "Zen" "Steel" 4 0)
    (fun r => r.namesIn (route r).columns == [(.customer, "Acme")]) (by decide +kernel)
  obtain ⟨e, -, he, -, -⟩ := Request.exists_of_seen "tell me about acme"
    (besideSteel "Zen" "Steel" 4 50) (fun _ => true) (by decide +kernel)
  have h : AgreeInside (r.namesIn (route r).columns) none (besideSteel "Zen" "Steel" 4 0)
      (besideSteel "Zen" "Steel" 4 50) := by
    rw [eq_of_beq hnames]
    exact .cons ⟨rfl, fun _ => rfl⟩ (.cons ⟨rfl, fun hzen => absurd hzen (by decide)⟩ .nil)
  exact ⟨d, e, r, hd, he, hr, h, structured_eq_of_agreeInside hd he hr h⟩

/-- The revenue that the answer begins with, if it is a summary. -/
private def revenueBits? (answer : Except Fault (Option (Result Float))) : Option UInt64 :=
  match answer with
  | .ok (some a) => a.revenueBits?
  | _ => none

private theorem exists_of_revenueBits? {answer : Except Fault (Option (Result Float))}
    {bits : UInt64} (h : revenueBits? answer = some bits) :
    ∃ a, answer = .ok (some a) ∧ a.revenueBits? = some bits := by
  unfold revenueBits? at h
  split at h
  · exact ⟨_, rfl, h⟩
  · cases h

/-- A question that names a customer and a product is about all that the customer bought: sales of
another product change the answer. -/
theorem structured_counts_other_products : ∃ d e r s a b,
    Dataset.ofRecords (besideSteel "Acme" "Cement" 4 0) none = .ok d ∧
    Dataset.ofRecords (besideSteel "Acme" "Cement" 4 50) none = .ok e ∧
    Request.make "tell me about acme steel" d {} = .ok r ∧
    Request.make "tell me about acme steel" e {} = .ok s ∧
    r.mentions.names.toList = [(.customer, "Acme"), (.item, "Steel")] ∧
    AgreeInside r.mentions.names.toList none (besideSteel "Acme" "Cement" 4 0)
      (besideSteel "Acme" "Cement" 4 50) ∧
    structured r = .ok (some a) ∧ a.kind = .summary ∧ structured s = .ok (some b) ∧ b ≠ a := by
  obtain ⟨d, r, hd, hr, hseen⟩ := Request.exists_of_seen "tell me about acme steel"
    (besideSteel "Acme" "Cement" 4 0)
    (fun r => r.mentions.names.toList == [(.customer, "Acme"), (.item, "Steel")] &&
      revenueBits? (structured r) == some (100 : Float).toBits) (by decide +kernel)
  obtain ⟨e, s, he, hs, hother⟩ := Request.exists_of_seen "tell me about acme steel"
    (besideSteel "Acme" "Cement" 4 50)
    (fun s => revenueBits? (structured s) == some (150 : Float).toBits) (by decide +kernel)
  obtain ⟨hnames, hrevenue⟩ := Bool.and_eq_true_iff.mp hseen
  obtain ⟨a, ha, hbits⟩ := exists_of_revenueBits? (eq_of_beq hrevenue)
  obtain ⟨b, hb, hbits'⟩ := exists_of_revenueBits? (eq_of_beq hother)
  refine ⟨d, e, r, s, a, b, hd, he, hr, hs, eq_of_beq hnames, ?_, ha,
    Result.summary_of_revenueBits? hbits, hb, fun hba => ?_⟩
  · rw [eq_of_beq hnames]
    exact .cons ⟨rfl, fun _ => rfl⟩ (.cons ⟨rfl, fun hcement => absurd hcement (by decide)⟩ .nil)
  · rw [hba, hbits] at hbits'
    exact absurd hbits' (by decide +kernel)

end SalesDesk.Answer
