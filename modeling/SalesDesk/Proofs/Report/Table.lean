import SalesDesk.Proofs.Number.Digits
import SalesDesk.Proofs.Outcome
import SalesDesk.Proofs.Text.Separated
import SalesDesk.Report.Render

/-!
Tables read back from their text: what a reader sees between the line breaks and the bars is what
was written there, unless a label or a value holds one of them itself.
-/
namespace SalesDesk.Render

def linesOf (text : String) : List (List Char) := Text.splitOn (· == '\n') text.toList

def cellsOf (line : List Char) : List String :=
  ((Text.splitOn (· == '|') line).drop 1).dropLast.map fun cell =>
    String.ofList (cell.drop 1).dropLast

/-- The text is read as a table of these rows: behind the two lines of the head, there is a line for
each row, with as many cells as the head, and its cells are the values of the row. -/
def ReadsAs (text : String) (rows : List (List String)) : Prop :=
  ∃ head rule body, linesOf text = head :: rule :: body ∧
    List.Forall₂ (fun line row => (cellsOf line).length = (cellsOf head).length ∧
      cellsOf line = row) body rows

/-- A text that can be told apart from the table around it. -/
def IsPlainCell (text : String) : Prop := '|' ∉ text.toList ∧ '\n' ∉ text.toList

instance : DecidablePred IsPlainCell := fun _ => inferInstanceAs (Decidable (_ ∧ _))

def lineOf (cells : List String) : String := "| " ++ String.intercalate " | " cells ++ " |"

def ruleOf (headers : List String) : String :=
  "|" ++ String.intercalate "|"
    (headers.map fun h => String.ofList (List.replicate (h.length + 2) '-')) ++ "|"

theorem table_eq (headers : List String) (rows : List (List String)) :
    table headers rows =
      String.intercalate "\n" (lineOf headers :: ruleOf headers :: rows.map lineOf) := rfl

def padded (cell : String) : List Char := ' ' :: (cell.toList ++ [' '])

theorem intercalate_padded {cells : List String} (hne : cells ≠ []) :
    ['|'].intercalate (cells.map padded) =
      ' ' :: (" | ".toList.intercalate (cells.map String.toList) ++ [' ']) := by
  induction cells with
  | nil => exact absurd rfl hne
  | cons cell rest ih =>
    cases rest with
    | nil => simp [padded]
    | cons next rest =>
      have hrest := ih (by simp)
      simp only [List.map_cons] at hrest ⊢
      rw [List.intercalate_cons_cons, List.intercalate_cons_cons, hrest]
      simp [padded]

/-- What a reader sees between the bars of a line, with nothing before the first and behind the
last one. -/
def pieces (cells : List String) : List (List Char) := [] :: (cells.map padded ++ [[]])

theorem pieces_ne_nil (cells : List String) : pieces cells ≠ [] := List.cons_ne_nil _ _

theorem toList_lineOf {cells : List String} (hne : cells ≠ []) :
    (lineOf cells).toList = ['|'].intercalate (pieces cells) := by
  rw [pieces, Text.intercalate_between (by simpa using hne), intercalate_padded hne]
  simp [lineOf]

theorem bar_not_mem_pieces_iff (cells : List String) :
    (∀ piece ∈ pieces cells, '|' ∉ piece) ↔ ∀ cell ∈ cells, '|' ∉ cell.toList := by
  have hpadded (cell : String) : '|' ∈ padded cell ↔ '|' ∈ cell.toList := by simp [padded]
  simp only [pieces, List.forall_mem_cons, List.forall_mem_append, List.forall_mem_map, hpadded,
    List.not_mem_nil, not_false_eq_true, true_and, and_true, false_implies, implies_true]

/-- The cells of a line are read back if none of them holds a bar. -/
theorem cellsOf_lineOf {cells : List String} (hne : cells ≠ [])
    (h : ∀ cell ∈ cells, '|' ∉ cell.toList) : cellsOf (lineOf cells).toList = cells := by
  have hpadded (cell : String) : String.ofList ((padded cell).drop 1).dropLast = cell := by
    simp [padded]
  rw [cellsOf, toList_lineOf hne,
    Text.splitOn_intercalate (pieces_ne_nil cells) ((bar_not_mem_pieces_iff cells).mpr h), pieces,
    List.drop_one, List.tail_cons, List.dropLast_concat, List.map_map]
  exact (List.map_congr_left fun cell _ => hpadded cell).trans cells.map_id

/-- A reader counts as many cells as were written only if none of them holds a bar. -/
theorem length_cellsOf_lineOf_iff {cells : List String} (hne : cells ≠ []) :
    (cellsOf (lineOf cells).toList).length = cells.length ↔
      ∀ cell ∈ cells, '|' ∉ cell.toList := by
  have hpos := List.length_pos_iff.mpr hne
  have hpieces : (pieces cells).length = cells.length + 2 := by simp [pieces]
  rw [← bar_not_mem_pieces_iff, ← Text.length_splitOn_intercalate_iff (pieces_ne_nil cells),
    ← toList_lineOf hne, hpieces, cellsOf]
  simp only [List.length_map, List.length_dropLast, List.length_drop]
  omega

theorem cellsOf_lineOf_nil : cellsOf (lineOf []).toList = [""] := by decide

theorem break_not_mem_lineOf_iff (cells : List String) :
    '\n' ∉ (lineOf cells).toList ↔ ∀ cell ∈ cells, '\n' ∉ cell.toList := by
  have hinner : '\n' ∉ " | ".toList.intercalate (cells.map String.toList) ↔
      ∀ part ∈ cells.map String.toList, '\n' ∉ part := Text.not_mem_intercalate_iff (by decide)
  rw [List.forall_mem_map] at hinner
  rw [← hinner]
  simp [lineOf]

theorem break_not_mem_ruleOf (headers : List String) : '\n' ∉ (ruleOf headers).toList := by
  have hinner : '\n' ∉ "|".toList.intercalate
      ((headers.map fun h => String.ofList (List.replicate (h.length + 2) '-')).map
        String.toList) := by
    rw [Text.not_mem_intercalate_iff (by decide), List.forall_mem_map, List.forall_mem_map]
    intro h _
    rw [String.toList_ofList]
    exact fun hbreak => absurd (List.eq_of_mem_replicate hbreak) (by decide)
  simpa [ruleOf] using hinner

def linesFor (headers : List String) (rows : List (List String)) : List (List Char) :=
  (lineOf headers :: ruleOf headers :: rows.map lineOf).map String.toList

theorem toList_table (headers : List String) (rows : List (List String)) :
    (table headers rows).toList = ['\n'].intercalate (linesFor headers rows) := by
  rw [table_eq, String.toList_intercalate]
  rfl

theorem break_not_mem_linesFor_iff (headers : List String) (rows : List (List String)) :
    (∀ line ∈ linesFor headers rows, '\n' ∉ line) ↔
      (∀ label ∈ headers, '\n' ∉ label.toList) ∧
        ∀ row ∈ rows, ∀ cell ∈ row, '\n' ∉ cell.toList := by
  simp only [linesFor, List.forall_mem_map, List.forall_mem_cons, break_not_mem_lineOf_iff,
    break_not_mem_ruleOf, not_false_eq_true, true_and]

theorem linesFor_ne_nil (headers : List String) (rows : List (List String)) :
    linesFor headers rows ≠ [] := List.cons_ne_nil _ _

/-- The lines are told apart if none of them is broken, and are then the ones that were written. -/
theorem linesOf_table {headers : List String} {rows : List (List String)}
    (h : ∀ line ∈ linesFor headers rows, '\n' ∉ line) :
    linesOf (table headers rows) = linesFor headers rows := by
  rw [linesOf, toList_table, Text.splitOn_intercalate (linesFor_ne_nil headers rows) h]

theorem length_linesOf_table_iff (headers : List String) (rows : List (List String)) :
    (linesOf (table headers rows)).length = rows.length + 2 ↔
      ∀ line ∈ linesFor headers rows, '\n' ∉ line := by
  have hlength : rows.length + 2 = (linesFor headers rows).length := by simp [linesFor]
  rw [hlength, linesOf, toList_table]
  exact Text.length_splitOn_intercalate_iff (linesFor_ne_nil headers rows)

/-- Reading a table is reading its lines, if none of them is broken. -/
theorem readsAs_table_iff_cellsOf (headers : List String) (rows : List (List String)) :
    ReadsAs (table headers rows) rows ↔ (∀ line ∈ linesFor headers rows, '\n' ∉ line) ∧
      ∀ row ∈ rows,
        (cellsOf (lineOf row).toList).length = (cellsOf (lineOf headers).toList).length ∧
        cellsOf (lineOf row).toList = row := by
  constructor
  · rintro ⟨head, rule, body, hread, hbody⟩
    have hlength : (linesOf (table headers rows)).length = rows.length + 2 := by
      rw [hread, ← hbody.length_eq]
      rfl
    have hbreaks := (length_linesOf_table_iff headers rows).mp hlength
    rw [linesOf_table hbreaks] at hread
    obtain ⟨rfl, -, rfl⟩ : head = (lineOf headers).toList ∧ rule = (ruleOf headers).toList ∧
        body = rows.map fun row => (lineOf row).toList := by
      simpa [linesFor, eq_comm, Function.comp_def] using hread
    rw [List.forall₂_map_left_iff, List.forall₂_same] at hbody
    exact ⟨hbreaks, hbody⟩
  · rintro ⟨hbreaks, hcells⟩
    refine ⟨(lineOf headers).toList, (ruleOf headers).toList,
      rows.map fun row => (lineOf row).toList, ?_, ?_⟩
    · rw [linesOf_table hbreaks]
      simp [linesFor, Function.comp_def]
    · rwa [List.forall₂_map_left_iff, List.forall₂_same]

/-- A table whose rows have a value for each label is read as these rows exactly if it has a column
and no label and no value holds a bar or a line break. -/
theorem readsAs_table_iff {headers : List String} {rows : List (List String)} (hne : rows ≠ [])
    (hlength : ∀ row ∈ rows, row.length = headers.length) :
    ReadsAs (table headers rows) rows ↔ headers ≠ [] ∧ (∀ label ∈ headers, IsPlainCell label) ∧
      ∀ row ∈ rows, ∀ cell ∈ row, IsPlainCell cell := by
  have hcolumns (hheaders : headers ≠ []) (row : List String) (hrow : row ∈ rows) : row ≠ [] := by
    rw [← List.length_pos_iff, hlength row hrow]
    exact List.length_pos_iff.mpr hheaders
  rw [readsAs_table_iff_cellsOf, break_not_mem_linesFor_iff]
  constructor
  · rintro ⟨⟨hlabels, hvalues⟩, hcells⟩
    obtain ⟨row, hrow⟩ := List.exists_mem_of_ne_nil rows hne
    have hheaders : headers ≠ [] := by
      rintro rfl
      have hnone := List.length_eq_zero_iff.mp (hlength row hrow)
      have hread := (hcells row hrow).2
      rw [hnone, cellsOf_lineOf_nil] at hread
      cases hread
    have hhead : (cellsOf (lineOf headers).toList).length = headers.length := by
      rw [← (hcells row hrow).1, (hcells row hrow).2, hlength row hrow]
    refine ⟨hheaders, fun label hlabel => ⟨?_, hlabels label hlabel⟩, fun row hrow cell hcell =>
      ⟨?_, hvalues row hrow cell hcell⟩⟩
    · exact (length_cellsOf_lineOf_iff hheaders).mp hhead label hlabel
    · have hread := congrArg List.length (hcells row hrow).2
      exact (length_cellsOf_lineOf_iff (hcolumns hheaders row hrow)).mp hread cell hcell
  · rintro ⟨hheaders, hlabels, hvalues⟩
    have hhead : cellsOf (lineOf headers).toList = headers :=
      cellsOf_lineOf hheaders fun label hlabel => (hlabels label hlabel).1
    refine ⟨⟨fun label hlabel => (hlabels label hlabel).2,
      fun row hrow cell hcell => (hvalues row hrow cell hcell).2⟩, fun row hrow => ?_⟩
    have hread : cellsOf (lineOf row).toList = row :=
      cellsOf_lineOf (hcolumns hheaders row hrow) fun cell hcell => (hvalues row hrow cell hcell).1
    exact ⟨by rw [hread, hhead, hlength row hrow], hread⟩

/-- What is in the rows of a table: the values, behind the rank if the rows are ranked. -/
def rankedRows (ranked : Bool) (values : List (List String)) : List (List String) :=
  if ranked then values.zipIdx.map fun (row, i) => toString (i + 1) :: row else values

def rankedHeaders (r : Result Float) : List String :=
  if r.ranked then "#" :: r.columns.map (label r.labels) else r.columns.map (label r.labels)

theorem isPlainCell_rank (n : ℕ) : IsPlainCell (toString n) := by
  have hdigits : ∀ c ∈ (toString n).toList, c.isDigit = true := by
    rw [Nat.toString_eq_repr, Nat.toList_repr]
    exact Number.isDigit_digits
  exact ⟨fun h => absurd (hdigits _ h) (by decide), fun h => absurd (hdigits _ h) (by decide)⟩

theorem length_of_rowTexts {s : Style} {columns : List String}
    {rows : List (Entries (Cell Float))} {values : List (List String)}
    (h : rows.mapM (rowTexts s columns) = .ok values) :
    ∀ row ∈ values, row.length = columns.length := by
  intro row hrow
  obtain ⟨i, hi, rfl⟩ := List.mem_iff_getElem.mp hrow
  have hrows := mapM_eq_ok_iff.mp h
  have hrowTexts := hrows.get (i := i) (by rwa [hrows.length_eq]) hi
  exact length_of_mapM hrowTexts

theorem rowsAsTable_eq {s : Style} {r : Result Float} {values : List (List String)}
    (h : r.rows.mapM (rowTexts s r.columns) = .ok values) :
    rowsAsTable s r = .ok (table (rankedHeaders r) (rankedRows r.ranked values)) := by
  unfold rowsAsTable rankedHeaders rankedRows
  rw [h]
  cases r.ranked <;> rfl

theorem forall_mem_zipIdx {β : Type} (l : List β) (P : β → Prop) :
    (∀ e ∈ l.zipIdx, P e.1) ↔ ∀ b ∈ l, P b := by
  conv_rhs => rw [← List.zipIdx_map_fst 0 l, List.forall_mem_map]

theorem length_of_mem_rankedRows {r : Result Float} {values : List (List String)}
    (h : ∀ row ∈ values, row.length = r.columns.length) :
    ∀ row ∈ rankedRows r.ranked values, row.length = (rankedHeaders r).length := by
  unfold rankedRows rankedHeaders
  cases r.ranked with
  | false => simpa using h
  | true =>
    simp only [if_true, List.forall_mem_map, List.length_cons, List.length_map,
      Nat.add_right_cancel_iff]
    exact (forall_mem_zipIdx values fun row => row.length = r.columns.length).mpr h

theorem plain_rankedHeaders_iff (r : Result Float) :
    (∀ header ∈ rankedHeaders r, IsPlainCell header) ↔
      ∀ column ∈ r.columns, IsPlainCell (label r.labels column) := by
  have hmark : IsPlainCell "#" := by decide
  unfold rankedHeaders
  cases r.ranked <;> simp [hmark]

theorem plain_rankedRows_iff (ranked : Bool) (values : List (List String)) :
    (∀ row ∈ rankedRows ranked values, ∀ value ∈ row, IsPlainCell value) ↔
      ∀ row ∈ values, ∀ value ∈ row, IsPlainCell value := by
  cases ranked with
  | false => rfl
  | true =>
    simp only [rankedRows, if_true, List.forall_mem_map, List.forall_mem_cons, isPlainCell_rank,
      true_and]
    exact forall_mem_zipIdx values fun row => ∀ value ∈ row, IsPlainCell value

/-- A table with at least one row is read as its formatted values exactly if it has a column (or
ranks) and no label and no value holds a bar or a line break. -/
theorem render_table_readsAs_iff (s : Style) {r : Result Float} (hkind : r.kind = .table)
    (hlayout : r.layout ≠ .list) (hrows : r.rows ≠ []) {values : List (List String)}
    (hvalues : r.rows.mapM (rowTexts s r.columns) = .ok values) {lines : String}
    (hlines : bullets s r = .ok lines) :
    ∃ text, r.render s =
        .ok (blocks [heading r.title, filtersLine r.filters, text, lines, r.note]) ∧
      (ReadsAs text (rankedRows r.ranked values) ↔ (r.ranked = true ∨ r.columns ≠ []) ∧
        (∀ column ∈ r.columns, IsPlainCell (label r.labels column)) ∧
        ∀ row ∈ values, ∀ value ∈ row, IsPlainCell value) := by
  refine ⟨table (rankedHeaders r) (rankedRows r.ranked values), ?_, ?_⟩
  · have hnone : r.rows.isEmpty = false := by simpa using hrows
    have hlist : (r.layout == .list) = false := by simpa using hlayout
    have hblock : rows s r = .ok (table (rankedHeaders r) (rankedRows r.ranked values)) := by
      rw [rows, hnone, hlist]
      exact rowsAsTable_eq hvalues
    cases r
    cases hkind
    rw [Result.render, hblock, hlines]
    rfl
  · have hlength := length_of_rowTexts hvalues
    have hcount := length_of_mapM hvalues
    have hne : rankedRows r.ranked values ≠ [] := by
      have hpos := hcount ▸ List.length_pos_iff.mpr hrows
      unfold rankedRows
      cases r.ranked <;> simpa [← List.length_pos_iff] using hpos
    rw [readsAs_table_iff hne (length_of_mem_rankedRows hlength), plain_rankedHeaders_iff,
      plain_rankedRows_iff]
    unfold rankedHeaders
    cases r.ranked <;> simp

/-- A table with a row of two values for each customer. -/
def customerTable (ranked : Bool) (names : List String) : Result Float where
  kind := .table
  columns := ["customer", "revenue"]
  rows := names.map fun name => [("customer", .text name), ("revenue", .count 100)]
  ranked := ranked

theorem render_table_readsAs_iff_ranked :
    (customerTable true ["Acme", "Zen"]).kind = .table ∧
      (customerTable true ["Acme", "Zen"]).layout ≠ .list ∧
      (customerTable true ["Acme", "Zen"]).rows ≠ [] ∧
      (customerTable true ["Acme", "Zen"]).rows.mapM
        (rowTexts {} (customerTable true ["Acme", "Zen"]).columns) =
        .ok [["Acme", "₹100.00"], ["Zen", "₹100.00"]] ∧
      bullets {} (customerTable true ["Acme", "Zen"]) = .ok "" ∧
      ∃ text, (customerTable true ["Acme", "Zen"]).render {} =
          .ok (blocks [heading "", filtersLine [], text, "", ""]) ∧
        ReadsAs text [["1", "Acme", "₹100.00"], ["2", "Zen", "₹100.00"]] := by
  have hlayout : (customerTable true ["Acme", "Zen"]).layout ≠ .list := by decide
  have hrows : (customerTable true ["Acme", "Zen"]).rows ≠ [] := List.cons_ne_nil _ _
  have hvalues : (customerTable true ["Acme", "Zen"]).rows.mapM
      (rowTexts {} (customerTable true ["Acme", "Zen"]).columns) =
      .ok [["Acme", "₹100.00"], ["Zen", "₹100.00"]] := by with_unfolding_all rfl
  have hlines : bullets {} (customerTable true ["Acme", "Zen"]) = .ok "" := rfl
  obtain ⟨text, htext, hreads⟩ := render_table_readsAs_iff {} rfl hlayout hrows hvalues hlines
  exact ⟨rfl, hlayout, hrows, hvalues, hlines, text, htext, hreads.mpr (by decide)⟩

/-- A bar in a name makes another cell, and a line break another line. -/
theorem customerTable_breaks :
    (customerTable false ["A | B"]).render {} = .ok (String.intercalate "\n"
        ["| Customer | Revenue |", "|----------|---------|", "| A | B | ₹100.00 |"]) ∧
      ¬ReadsAs (String.intercalate "\n"
        ["| Customer | Revenue |", "|----------|---------|", "| A | B | ₹100.00 |"])
        [["A | B", "₹100.00"]] ∧
      (customerTable false ["A\nB"]).render {} = .ok (String.intercalate "\n"
        ["| Customer | Revenue |", "|----------|---------|", "| A", "B | ₹100.00 |"]) ∧
      ¬ReadsAs (String.intercalate "\n"
        ["| Customer | Revenue |", "|----------|---------|", "| A", "B | ₹100.00 |"])
        [["A\nB", "₹100.00"]] := by
  have hbroken (name : String) (hname : ¬IsPlainCell name) :
      ¬ReadsAs (table ["Customer", "Revenue"] [[name, "₹100.00"]]) [[name, "₹100.00"]] := by
    rw [readsAs_table_iff (List.cons_ne_nil _ _) (by simp)]
    exact fun h => hname (h.2.2 _ List.mem_cons_self _ List.mem_cons_self)
  refine ⟨by with_unfolding_all rfl, ?_, by with_unfolding_all rfl, ?_⟩
  · exact hbroken "A | B" (by decide)
  · exact hbroken "A\nB" (by decide)

end SalesDesk.Render
