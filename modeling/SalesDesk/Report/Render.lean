import SalesDesk.Report.Format

/-! Answers as text: headings, lists, tables and bullets, in blocks with empty lines between. -/
namespace SalesDesk

namespace Render

def table (headers : List String) (rows : List (List String)) : String :=
  let line (cells : List String) := "| " ++ String.intercalate " | " cells ++ " |"
  let dashes (h : String) := String.ofList (List.replicate (h.length + 2) '-')
  let ruleLine := "|" ++ String.intercalate "|" (headers.map dashes) ++ "|"
  String.intercalate "\n" (line headers :: ruleLine :: rows.map line)

def usualLabels : Entries String := [
  ("rank", "#"), ("label", "Name"), ("revenue", "Revenue"), ("amount", "Amount"),
  ("quantity", "Quantity"), ("orders", "Orders"), ("transactions", "Transactions"),
  ("customers", "Unique Customers"), ("customer", "Customer"), ("item", "Item"), ("date", "Date"),
  ("growth", "Growth"), ("avg_order_value", "Average Order Value"), ("count", "Count"),
  ("records", "Records"), ("start", "From"), ("end", "To")]

def nameAsTitle (name : String) : String :=
  Text.titleCase (String.ofList (name.toList.map fun c => if c == '_' then ' ' else c))

def label (labels : Entries String) (name : String) : String :=
  (labels.lookup name).getD ((usualLabels.lookup (Format.stem name)).getD (nameAsTitle name))

def heading (title : String) : String := if title.isEmpty then "" else "**" ++ title ++ ":**"

def filtersLine (filters : Entries String) : String :=
  if filters.isEmpty then ""
  else "**Filters Applied:** " ++
    String.intercalate ", " (filters.map fun f => f.1 ++ "=" ++ f.2)

def bullets (s : Style) (r : Result Float) : Except Fault String := do
  let lines ← r.totals.mapM fun (name, v) => do
    return "• " ++ label r.labels name ++ ": " ++ (← Format.entry s name v)
  return String.intercalate "\n" lines

def rowValue (row : Entries (Cell Float)) (column : String) : Cell Float :=
  (row.lookup column).getD .absent

def rowTexts (s : Style) (columns : List String) (row : Entries (Cell Float)) :
    Except Fault (List String) :=
  columns.mapM fun column => Format.entry s column (rowValue row column)

/-- One line for each row, its first value in bold. A list needs at least one column. -/
def rowsAsList (s : Style) (r : Result Float) : Except Fault String := do
  let lines ← r.rows.zipIdx.mapM fun (row, i) => do
    match ← rowTexts s r.columns row with
    | [] => throw .noColumns
    | first :: rest =>
      let start := if r.ranked then toString (i + 1) ++ ". " else "• "
      return start ++ String.intercalate " - " (("**" ++ first ++ "**") :: rest)
  return String.intercalate "\n" lines

def rowsAsTable (s : Style) (r : Result Float) : Except Fault String := do
  let headers := r.columns.map (label r.labels)
  let rows ← r.rows.mapM (rowTexts s r.columns)
  if r.ranked then
    return table ("#" :: headers) (rows.zipIdx.map fun (row, i) => toString (i + 1) :: row)
  else return table headers rows

def blocks (texts : List String) : String :=
  String.intercalate "\n\n" (texts.filter (!·.isEmpty))

def rows (s : Style) (r : Result Float) : Except Fault String :=
  if r.rows.isEmpty then .ok "No results found."
  else if r.layout == .list then rowsAsList s r
  else rowsAsTable s r

/-- Why there is no data, and the days that do have data if they are known. -/
def noData (r : Result Float) : Except Fault String := do
  let text := if r.message.isEmpty then "No data found." else r.message
  match r.totals.lookup "start", r.totals.lookup "end" with
  | some first, some last =>
    return text ++ " Available data ranges from " ++
      (← Format.written first (Format.day first)) ++ " to " ++
      (← Format.written last (Format.day last)) ++ "."
  | _, _ => return text

end Render

mutual

def Result.render (s : Style) (r : Result Float) : Except Fault String :=
  match r with
  | { kind := .noData, .. } => Render.noData r
  | { kind := .message, message, .. } => .ok message
  | { kind := .composite, title, sections, note, .. } => do
    return Render.blocks (Render.heading title :: (← renderSections s sections) ++ [note])
  | { kind := .table, .. } => do
    return Render.blocks [Render.heading r.title, Render.filtersLine r.filters, ← Render.rows s r,
      ← Render.bullets s r, r.note]
  | { kind := .summary, .. } => do
    return Render.blocks [Render.heading r.title, Render.filtersLine r.filters,
      ← Render.bullets s r, r.note]

def renderSections (s : Style) : List (Result Float) → Except Fault (List String)
  | [] => .ok []
  | r :: rest => do
    let text ← r.render s
    let texts ← renderSections s rest
    return text :: texts

end

end SalesDesk
