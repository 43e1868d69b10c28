import SampleForge.Json.Printer
import SampleForge.Orchestrator
import SampleForge.Text.Wrap

/-!
# Showing the outcome of a run

A report is shown as a table of its files with a summary below, or as JSON.

The columns of the table are as wide as their widest line, up to a limit that hardly any line
reaches (`Table.widest`).  A cell with line breaks, or with a line beyond the limit, takes several
lines.  The names of the columns stand above a double rule, and the rows are kept apart by dashed
ones.
-/

namespace SampleForge

open Text (joinWith split width)

/-! ## Tables -/

namespace Table

/-- The cells of a row. -/
abbrev Row := List String

/-- The width that no column passes. -/
def widest : Nat := 65535

/-- The lines of a cell in a column. -/
def cellLines (columns : Nat) (cell : String) : List String :=
  (split '\n' cell).flatMap (Text.wrap columns)

/-- The width of a cell: that of its widest line, and one column at least. -/
def cellWidth (cell : String) : Nat :=
  min widest ((split '\n' cell).foldl (fun w line => max w (width line)) 1)

/-- The widths of the columns of some rows. -/
def columnWidths (rows : List Row) : List Nat :=
  match rows with
  | [] => []
  | first :: rest =>
      rest.foldl (fun widths row => List.zipWith max widths (row.map cellWidth))
        (first.map cellWidth)

/-- A text filled up with spaces to a width. -/
def fill (columns : Nat) (s : String) : String :=
  s ++ String.ofList (List.replicate (columns - width s) ' ')

/-- One line of a row, made of a line of each cell. -/
def rowLine (widths : List Nat) (cells : List String) : String :=
  "│ " ++ joinWith " ┆ " (List.zipWith fill widths cells) ++ " │"

/-- The lines of a row. -/
def rowLines (widths : List Nat) (row : Row) : List String :=
  let cells := List.zipWith cellLines widths row
  let height := cells.foldl (fun h lines => max h lines.length) 1
  (List.range height).map fun i => rowLine widths (cells.map fun lines => lines.getD i "")

/-- A rule across all columns.  It is no wider above a column than `widest`. -/
def rule (widths : List Nat) (left bar cross right : String) : String :=
  left ++
    joinWith cross (widths.map fun w => String.join (List.replicate (min widest (w + 2)) bar)) ++ right

/-- The lines of a table with the given heading and rows. -/
def lines (heading : Row) (rows : List Row) : List String :=
  let widths := columnWidths (heading :: rows)
  let dashed := rule widths "├" "╌" "┼" "┤"
  let body := rows.map fun row => joinWith "\n" (rowLines widths row)
  [rule widths "┌" "─" "┬" "┐"] ++ rowLines widths heading ++ [rule widths "╞" "═" "╪" "╡"] ++
    (if body.isEmpty then [] else [joinWith ("\n" ++ dashed ++ "\n") body]) ++
    [rule widths "└" "─" "┴" "┘"]

/-- A table as text. -/
def render (heading : Row) (rows : List Row) : String := joinWith "\n" (lines heading rows)

section Tests

example : render ["A", "B"] [["x", "yz"]] =
    "┌───┬────┐\n│ A ┆ B  │\n╞═══╪════╡\n│ x ┆ yz │\n└───┴────┘" := by
  decide +kernel

end Tests

end Table

/-! ## Reports -/

namespace Report

/-- The size of a file of a report. -/
def fileSize (report : Report) (path : String) : Nat :=
  ((report.artifacts.get? path).map fun content => content.bytes.length).getD 0

/-- The rows of the table of files. -/
def rows (report : Report) : List Table.Row :=
  report.contributions.flatMap fun c =>
    c.paths.map fun path =>
      [path, c.generator, c.kind.word, Nat.repr (report.fileSize path)]

/-- A report as text. -/
def renderText (report : Report) : String :=
  (if report.artifacts.isEmpty then "No files generated.\n"
    else Table.render ["Path", "Generator", "Artifact", "Bytes"] report.rows ++ "\n") ++
    Nat.repr report.artifacts.size ++ " file(s), fingerprint " ++ report.artifacts.fingerprint ++
    (if report.skipped.isEmpty then "" else "\nSkipped: " ++ joinWith ", " report.skipped)

/-- A contribution as JSON. -/
def contributionJson (c : Contribution) : Json.Value :=
  .object [("artifact", .text c.kind.word), ("generator", .text c.generator),
    ("paths", Json.Value.texts c.paths)]

/-- A report as JSON. -/
def toJson (report : Report) : Json.Value :=
  .object [("files", .object (report.artifacts.shown.mapValues Json.Value.text).toList),
    ("fingerprint", .text report.artifacts.fingerprint),
    ("generators", .list (report.contributions.map contributionJson)),
    ("skipped", Json.Value.texts report.skipped)]

/-- A report as JSON text. -/
def renderJson (report : Report) : String := report.toJson.pretty

end Report

end SampleForge
