import SalesDesk.Proofs.Report.Table
import SalesDesk.Proofs.Value.Written

/-!
What an answer shows: every value that its kind brings into the text, or that one of its sections
does, stands there as the formatted value. An answer has a text if all these values have one and no
list lacks columns.
-/
namespace SalesDesk

namespace Format

variable {s : Style} {v : Cell Float}

def HasText (s : Style) (name : String) (v : Cell Float) : Prop := ∃ t, entry s name v = .ok t

/-- The formatted value stands in the text. -/
def StandsIn (s : Style) (name : String) (v : Cell Float) (text : String) : Prop :=
  ∃ t, entry s name v = .ok t ∧ t.toList <:+: text.toList

theorem StandsIn.mono {name text whole : String} (h : StandsIn s name v text)
    (hwhole : text.toList <:+: whole.toList) : StandsIn s name v whole := by
  obtain ⟨t, ht, hpart⟩ := h
  exact ⟨t, ht, hpart.trans hwhole⟩

theorem HasText.gives_entry {name : String} (h : HasText s name v) :
    Gives (entry s name v) (StandsIn s name v) := by
  obtain ⟨t, ht⟩ := h
  exact ⟨t, ht, t, ht, List.infix_rfl⟩

end Format

namespace Render

open Format

variable {s : Style} {r : Result Float}

/-- A part stands in the text that is made with a separator between the parts. -/
theorem infix_join {part : String} {parts : List String} (separator : String)
    (h : part ∈ parts) : part.toList <:+: (String.intercalate separator parts).toList := by
  rw [String.toList_intercalate]
  exact Text.infix_intercalate _ (List.mem_map_of_mem h)

/-- Blocks without any text are left out, and nothing is lost with them. -/
theorem infix_blocks {block : String} {texts : List String} (h : block ∈ texts) :
    block.toList <:+: (blocks texts).toList := by
  cases hempty : block.isEmpty with
  | true =>
    rw [String.isEmpty_iff.mp hempty]
    exact List.nil_infix
  | false => exact infix_join _ (List.mem_filter.mpr ⟨h, by simp [hempty]⟩)

theorem gives_bullets_shown (h : ∀ e ∈ r.totals, HasText s e.1 e.2) :
    Gives (bullets s r) fun text => ∀ e ∈ r.totals, StandsIn s e.1 e.2 text := by
  have hlines : Gives (r.totals.mapM fun e => do
      return "• " ++ label r.labels e.1 ++ ": " ++ (← entry s e.1 e.2)) fun lines =>
      lines.length = r.totals.length ∧ ∀ e ∈ r.totals, ∃ line ∈ lines, StandsIn s e.1 e.2 line := by
    refine gives_mapM_each fun e he => (h e he).gives_entry.map fun t ht => ht.mono ?_
    rw [String.toList_append]
    exact (List.suffix_append _ _).isInfix
  apply hlines.map
  rintro lines ⟨-, hlines⟩ e he
  obtain ⟨line, hline, hstands⟩ := hlines e he
  exact hstands.mono (infix_join _ hline)

theorem gives_rowTexts_shown {columns : List String} {row : Entries (Cell Float)}
    (h : ∀ column ∈ columns, HasText s column (rowValue row column)) :
    Gives (rowTexts s columns row) fun texts => texts.length = columns.length ∧
      ∀ column ∈ columns, ∃ t ∈ texts, StandsIn s column (rowValue row column) t :=
  gives_mapM_each fun column hcolumn => (h column hcolumn).gives_entry

theorem exists_mem_zipIdx {β : Type} {l : List β} {b : β} (h : b ∈ l) :
    ∃ e ∈ l.zipIdx, e.1 = b := by
  rwa [← List.mem_map, List.zipIdx_map_fst]

theorem infix_table (headers : List String) {rows : List (List String)} {row : List String}
    {cell : String} (hrow : row ∈ rows) (hcell : cell ∈ row) :
    cell.toList <:+: (table headers rows).toList := by
  have hline : cell.toList <:+: (lineOf row).toList := by
    refine (infix_join " | " hcell).trans ?_
    rw [lineOf, String.toList_append, String.toList_append]
    exact List.infix_append _ _ _
  rw [table_eq]
  refine hline.trans (infix_join _ ?_)
  exact List.mem_cons_of_mem _ (List.mem_cons_of_mem _ (List.mem_map_of_mem hrow))

theorem exists_mem_rankedRows (ranked : Bool) {values : List (List String)} {texts : List String}
    (h : texts ∈ values) : ∃ row ∈ rankedRows ranked values, ∀ t ∈ texts, t ∈ row := by
  cases ranked with
  | false => exact ⟨texts, h, fun _ => id⟩
  | true =>
    obtain ⟨e, he, rfl⟩ := exists_mem_zipIdx h
    exact ⟨_, List.mem_map_of_mem he, fun _ => List.mem_cons_of_mem _⟩

theorem gives_rowsAsTable_shown
    (h : ∀ row ∈ r.rows, ∀ column ∈ r.columns, HasText s column (rowValue row column)) :
    Gives (rowsAsTable s r) fun text => ∀ row ∈ r.rows, ∀ column ∈ r.columns,
      StandsIn s column (rowValue row column) text := by
  obtain ⟨values, hvalues, -, hshown⟩ :=
    gives_mapM_each fun row hrow => gives_rowTexts_shown (s := s) (h row hrow)
  refine ⟨_, rowsAsTable_eq hvalues, fun row hrow column hcolumn => ?_⟩
  obtain ⟨texts, htexts, -, hrow⟩ := hshown row hrow
  obtain ⟨t, ht, hstands⟩ := hrow column hcolumn
  obtain ⟨cells, hcells, hmem⟩ := exists_mem_rankedRows r.ranked htexts
  exact hstands.mono (infix_table _ hcells (hmem t ht))

theorem infix_listLine (start first : String) {rest : List String} {t : String}
    (h : t ∈ first :: rest) :
    t.toList <:+: (start ++ String.intercalate " - " (("**" ++ first ++ "**") :: rest)).toList := by
  have hparts : t.toList <:+:
      (String.intercalate " - " (("**" ++ first ++ "**") :: rest)).toList := by
    rcases List.mem_cons.mp h with rfl | h
    · refine List.IsInfix.trans ?_ (infix_join " - " List.mem_cons_self)
      rw [String.toList_append, String.toList_append]
      exact List.infix_append _ _ _
    · exact infix_join " - " (List.mem_cons_of_mem _ h)
  rw [String.toList_append]
  exact hparts.trans (List.suffix_append _ _).isInfix

theorem gives_rowsAsList_shown
    (h : ∀ row ∈ r.rows, ∀ column ∈ r.columns, HasText s column (rowValue row column))
    (hcolumns : r.columns ≠ []) :
    Gives (rowsAsList s r) fun text => ∀ row ∈ r.rows, ∀ column ∈ r.columns,
      StandsIn s column (rowValue row column) text := by
  unfold rowsAsList
  refine (gives_mapM_each (R := fun e line => ∀ column ∈ r.columns,
    StandsIn s column (rowValue e.1 column) line) fun e he => ?_).map ?_
  · refine (gives_rowTexts_shown (h e.1 (List.fst_mem_of_mem_zipIdx he))).bind ?_
    rintro texts ⟨hlength, hstands⟩
    cases texts with
    | nil => exact absurd (List.length_eq_zero_iff.mp hlength.symm) hcolumns
    | cons first rest =>
      refine gives_ok fun column hcolumn => ?_
      obtain ⟨t, ht, hstands⟩ := hstands column hcolumn
      exact hstands.mono (infix_listLine _ first ht)
  · rintro lines ⟨-, hlines⟩ row hrow column hcolumn
    obtain ⟨e, he, rfl⟩ := exists_mem_zipIdx hrow
    obtain ⟨line, hline, hstands⟩ := hlines e he
    exact (hstands column hcolumn).mono (infix_join _ hline)

theorem gives_rows_shown
    (h : ∀ row ∈ r.rows, ∀ column ∈ r.columns, HasText s column (rowValue row column))
    (hcolumns : r.layout = .list → r.rows ≠ [] → r.columns ≠ []) :
    Gives (rows s r) fun text => ∀ row ∈ r.rows, ∀ column ∈ r.columns,
      StandsIn s column (rowValue row column) text := by
  unfold rows
  refine gives_ite (fun hnone => ?_) fun hsome => gives_ite (fun hlist => ?_) fun _ =>
    gives_rowsAsTable_shown h
  · rw [List.isEmpty_iff.mp hnone]
    exact gives_ok nofun
  · exact gives_rowsAsList_shown h (hcolumns (eq_of_beq hlist) (by simpa using hsome))

end Render

namespace Result

/-- The values that an answer brings into the text without its sections, each with its name. -/
def shown (r : Result Float) : Entries (Cell Float) :=
  match r.kind with
  | .noData =>
    match r.totals.lookup "start", r.totals.lookup "end" with
    | some first, some last => [("start", first), ("end", last)]
    | _, _ => []
  | .table =>
    (r.rows.flatMap fun row => r.columns.map fun column =>
      (column, Render.rowValue row column)) ++ r.totals
  | .summary => r.totals
  | .message | .composite => []

/-- The answer, or a section of it at any depth, brings the value into the text under the name. -/
inductive Shows : Result Float → String → Cell Float → Prop
  | here {r : Result Float} {name : String} {v : Cell Float} (h : (name, v) ∈ r.shown) :
    Shows r name v
  | within {r part : Result Float} {name : String} {v : Cell Float} (hkind : r.kind = .composite)
    (hpart : part ∈ r.sections) (h : Shows part name v) : Shows r name v

/-- The answer, or a section of it at any depth, is a list of rows without columns. -/
inductive LacksColumns : Result Float → Prop
  | here {r : Result Float} (hkind : r.kind = .table) (hlayout : r.layout = .list)
    (hrows : r.rows ≠ []) (hcolumns : r.columns = []) : LacksColumns r
  | within {r part : Result Float} (hkind : r.kind = .composite) (hpart : part ∈ r.sections)
    (h : LacksColumns part) : LacksColumns r

theorem shows_iff_of_ne_composite {r : Result Float} (h : r.kind ≠ .composite) {name : String}
    {v : Cell Float} : r.Shows name v ↔ (name, v) ∈ r.shown := by
  refine ⟨fun hshows => ?_, .here⟩
  cases hshows with
  | here hmem => exact hmem
  | within hkind => exact absurd hkind h

open Format

variable {s : Style} {r : Result Float}

theorem written_day {name : String} {v : Cell Float} (hname : kinds.lookup (stem name) = some .day)
    (h : HasText s name v) : written v (day v) = .ok (day v) ∧ entry s name v = .ok (day v) := by
  obtain ⟨t, ht⟩ := h
  have hentry : entry s name v = written v (day v) := by rw [entry, hname]
  have hwritten : written v (day v) = .ok (day v) := by
    rw [hentry] at ht
    exact Value.written_of_short (Value.written_eq_ok_iff.mp ht).1 _
  exact ⟨hwritten, hentry.trans hwritten⟩

theorem gives_noData_shown (hkind : r.kind = .noData) (h : ∀ e ∈ r.shown, HasText s e.1 e.2) :
    Gives (Render.noData r) fun text => ∀ e ∈ r.shown, StandsIn s e.1 e.2 text := by
  unfold Result.shown at h ⊢
  unfold Render.noData
  rw [hkind] at h ⊢
  generalize (if r.message.isEmpty then "No data found." else r.message) = message
  cases hfirst : r.totals.lookup "start" with
  | none => exact gives_ok nofun
  | some first =>
    cases hlast : r.totals.lookup "end" with
    | none => exact gives_ok nofun
    | some last =>
      simp only [hfirst, hlast, List.forall_mem_cons] at h
      obtain ⟨hstart, hend, -⟩ := h
      obtain ⟨hfirst, hshownFirst⟩ := written_day (s := s) rfl hstart
      obtain ⟨hlast, hshownLast⟩ := written_day (s := s) rfl hend
      refine ⟨message ++ " Available data ranges from " ++ day first ++ " to " ++ day last ++ ".",
        ?_, ?_⟩
      · simp only [hfirst, hlast]
        rfl
      · simp only [List.forall_mem_cons, List.not_mem_nil, false_implies, implies_true, and_true]
        refine ⟨⟨day first, hshownFirst, ?_⟩, day last, hshownLast, ?_⟩
        · simp only [String.toList_append, List.append_assoc]
          exact ((List.prefix_append _ _).isInfix.trans (List.suffix_append _ _).isInfix).trans
            (List.suffix_append _ _).isInfix
        · rw [String.toList_append, String.toList_append]
          exact List.infix_append _ _ _

theorem forall_mem_shown_noData (hkind : r.kind = .noData) (P : String × Cell Float → Prop)
    (h : ∀ name ∈ ["start", "end"], ∀ v, r.totals.lookup name = some v → P (name, v)) :
    ∀ e ∈ r.shown, P e := by
  unfold shown
  rw [hkind]
  simp only
  split
  · rename_i first last hfirst hlast
    rw [List.forall_mem_cons, List.forall_mem_singleton]
    exact ⟨h "start" (by simp) first hfirst, h "end" (by simp) last hlast⟩
  · exact List.forall_mem_nil _

theorem forall_mem_shown_table (hkind : r.kind = .table) (P : String × Cell Float → Prop) :
    (∀ e ∈ r.shown, P e) ↔
      (∀ row ∈ r.rows, ∀ column ∈ r.columns, P (column, Render.rowValue row column)) ∧
        ∀ e ∈ r.totals, P e := by
  unfold shown
  rw [hkind]
  simp only [List.forall_mem_append, List.forall_mem_flatMap, List.forall_mem_map]

theorem gives_render_flat (hkind : r.kind ≠ .composite)
    (hvalues : ∀ e ∈ r.shown, HasText s e.1 e.2) (hcolumns : ¬r.LacksColumns) :
    Gives (r.render s) fun text => ∀ e ∈ r.shown, StandsIn s e.1 e.2 text := by
  unfold Result.render
  split
  · exact gives_noData_shown rfl hvalues
  · exact gives_ok nofun
  · exact absurd rfl hkind
  · obtain ⟨hrows, htotals⟩ := (forall_mem_shown_table rfl _).mp hvalues
    have hlist := fun hlayout hne hnone => hcolumns (.here rfl hlayout hne hnone)
    apply (Render.gives_rows_shown hrows hlist).bind
    intro rows hrows
    apply (Render.gives_bullets_shown htotals).map
    intro lines hlines
    refine (forall_mem_shown_table rfl _).mpr ⟨fun row hrow column hcolumn => ?_, fun e he => ?_⟩
    · exact (hrows row hrow column hcolumn).mono (Render.infix_blocks (by simp))
    · exact (hlines e he).mono (Render.infix_blocks (by simp))
  · refine (Render.gives_bullets_shown hvalues).map fun text htext e he =>
      (htext e he).mono (Render.infix_blocks ?_)
    simp

/-- An answer that is made of sections shows what they show. -/
theorem shows_iff_of_composite (hkind : r.kind = .composite) {name : String} {v : Cell Float} :
    r.Shows name v ↔ ∃ part ∈ r.sections, part.Shows name v := by
  refine ⟨fun hshows => ?_, fun ⟨part, hpart, h⟩ => .within hkind hpart h⟩
  cases hshows with
  | here hmem =>
    rw [shown, hkind] at hmem
    cases hmem
  | within _ hpart h => exact ⟨_, hpart, h⟩

theorem not_lacksColumns {r : Result Float} (hkind : r.kind ≠ .composite)
    (h : r.columns ≠ [] ∨ r.rows = []) : ¬r.LacksColumns := by
  intro hlacks
  cases hlacks with
  | here _ _ hrows hcolumns => exact h.elim (· hcolumns) hrows
  | within hcomposite => exact hkind hcomposite

theorem not_lacksColumns_of_composite {r : Result Float} (hkind : r.kind = .composite)
    (h : ∀ part ∈ r.sections, ¬part.LacksColumns) : ¬r.LacksColumns := by
  intro hlacks
  cases hlacks with
  | here htable => exact absurd (hkind.symm.trans htable) (by decide)
  | within _ hpart hlacks => exact h _ hpart hlacks

theorem render_composite (hkind : r.kind = .composite) : r.render s = do
    let sections ← renderSections s r.sections
    return Render.blocks (Render.heading r.title :: sections ++ [r.note]) := by
  cases r
  cases hkind
  rw [Result.render]

end Result

mutual

/-- An answer whose values can all be shown has a text in which each of them stands. -/
theorem Result.gives_render_shown (s : Style) (r : Result Float)
    (hvalues : ∀ name v, r.Shows name v → Format.HasText s name v) (hcolumns : ¬r.LacksColumns) :
    Gives (r.render s) fun text => ∀ name v, r.Shows name v → Format.StandsIn s name v text := by
  by_cases hkind : r.kind = .composite
  · have hsections := gives_renderSections_shown s r.sections
      (fun part hpart name v h => hvalues name v (.within hkind hpart h))
      fun part hpart h => hcolumns (.within hkind hpart h)
    rw [Result.render_composite hkind]
    apply hsections.map
    intro texts htexts name v h
    obtain ⟨part, hpart, h⟩ := (Result.shows_iff_of_composite hkind).mp h
    obtain ⟨text, htext, hstands⟩ := htexts part hpart name v h
    exact hstands.mono (Render.infix_blocks (by simp [htext]))
  · refine (Result.gives_render_flat hkind (fun e he => hvalues _ _ (.here he)) hcolumns).mono ?_
    intro text htext name v h
    exact htext (name, v) ((Result.shows_iff_of_ne_composite hkind).mp h)
termination_by sizeOf r
decreasing_by
  cases r
  simp
  omega

theorem gives_renderSections_shown (s : Style) (sections : List (Result Float))
    (hvalues : ∀ r ∈ sections, ∀ name v, r.Shows name v → Format.HasText s name v)
    (hcolumns : ∀ r ∈ sections, ¬r.LacksColumns) :
    Gives (renderSections s sections) fun texts => ∀ r ∈ sections, ∀ name v, r.Shows name v →
      ∃ text ∈ texts, Format.StandsIn s name v text := by
  match sections with
  | [] => exact gives_ok nofun
  | r :: rest =>
    obtain ⟨hvalue, hvalues⟩ := List.forall_mem_cons.mp hvalues
    obtain ⟨hcolumn, hcolumns⟩ := List.forall_mem_cons.mp hcolumns
    rw [renderSections]
    apply (Result.gives_render_shown s r hvalue hcolumn).bind
    intro text htext
    apply (gives_renderSections_shown s rest hvalues hcolumns).map
    intro texts htexts
    refine List.forall_mem_cons.mpr ⟨fun name v h => ?_, fun part hpart name v h => ?_⟩
    · exact ⟨text, List.mem_cons_self, htext name v h⟩
    · obtain ⟨text, htext, hstands⟩ := htexts part hpart name v h
      exact ⟨text, List.mem_cons_of_mem _ htext, hstands⟩
termination_by sizeOf sections

end

end SalesDesk
