import BackupLocator.Config
import BackupLocator.Json.Limits
import BackupLocator.Json.Shown
import BackupLocator.Json.Writer
import BackupLocator.Resolver
import BackupLocator.Terminal

/-!
# Reports

What a command prints: lines of text or a table, and beside them what was noted on the way.
-/

namespace BackupLocator.CommandLine

/-- A table with a title. -/
structure Table where
  title : String
  header : List String
  rows : List (List String)
  deriving DecidableEq

namespace Table

/-- The cells of a column, the header's among them. -/
def column (t : Table) (i : Nat) : List String :=
  (t.header :: t.rows).map fun row => row[i]?.getD ""

/-- The number of characters in the longest cell of a column. -/
def columnWidth (t : Table) (i : Nat) : Nat :=
  ((t.column i).map String.length).foldl max 0

/-- A row with its cells below those of the rows above. -/
def rowText (t : Table) (row : List String) : String :=
  String.join ((row.zipIdx).map fun (cell, i) =>
    cell ++ String.ofList (List.replicate (t.columnWidth i - cell.length + 2) ' '))

/-- The text of a table. -/
def text (t : Table) : String :=
  String.join ((t.title :: (t.header :: t.rows).map t.rowText).map (· ++ "\n"))

end Table

/-- What a command prints. -/
inductive Screen where
  | text (s : String)
  | table (t : Table)
  deriving DecidableEq

/-- The text of what a command prints. -/
def Screen.toText : Screen → String
  | .text s => s
  | .table t => t.text

/-- What a command leaves behind: the number it ends with, what it prints, and what it prints
beside that. -/
structure Report where
  exitCode : Nat
  screen : Screen
  errors : String
  deriving DecidableEq

/-! ## Lines -/

/-- The text of some lines with markup. -/
def printLines : List String → Except Failure String
  | [] => .ok ""
  | line :: lines => do
    let text ← Terminal.printed line
    return text ++ "\n" ++ (← printLines lines)

/-- What stands in front of good news. -/
def goodMark : String := "[green]✓[/green] "

/-- What stands in front of bad news. -/
def badMark : String := "[red]✗[/red] "

/-! ## Directories -/

/-- The value that describes a directory. -/
def directoryJson (d : ResolvedDirectory) : Json :=
  .obj [
    ("path", .str d.path.text),
    ("root", .str d.site.path.text),
    ("handle", d.site.handle),
    ("description", d.site.description),
    ("category", match d.category with
      | some c => .str c.directory
      | none => .null),
    ("model", .str d.model.name)]

/-- The lines that describe a directory. -/
def directoryLines (d : ResolvedDirectory) : List String :=
  [goodMark ++ d.path.text, "  Storage model: " ++ d.model.name] ++
    if d.site.description.truthy then
      ["  Volume: " ++ String.ofList d.site.description.shown]
    else []

/-- The text that describes a directory, in lines or as JSON. -/
def directoryText (d : ResolvedDirectory) (asJson : Bool) : Except Failure String :=
  if asJson then
    let v := directoryJson d
    if v.isReportable then .ok (Terminal.echoed (Json.render .report v) ++ "\n")
    else .error .mistyped
  else printLines (directoryLines d)

/-- The lines that tell why there is no directory; other failures end the program. -/
def failureLines? (e : Failure) : Option (List String) :=
  match e with
  | .badHandle fault =>
    some [badMark ++ "Directory handle not accessible: " ++ fault.message,
      "  Choose the backup folder again to re-grant access."]
  | .noStorage => some [badMark ++ "Storage unavailable: " ++ e.message?.getD ""]
  | .notWritable _ => some [badMark ++ "Storage unavailable: " ++ e.message?.getD ""]
  | .notCreated _ _ => some [badMark ++ e.message?.getD ""]
  | _ => none

/-! ## Volumes -/

/-- A column of a table: what stands above it, and whether it breaks lines that are too long. -/
structure Column where
  title : String
  breaksLines : Bool
  deriving DecidableEq

/-- The columns of the table of volumes. -/
def volumeColumns : List Column :=
  [⟨"Volume", false⟩, ⟨"Description", true⟩, ⟨"Path", true⟩, ⟨"Removable", true⟩, ⟨"Mounted", true⟩]

/-- A word for a truth value. -/
def yesNo (b : Bool) : Json := .str (if b then "yes" else "no")

/-- What a cell shows: a text, or nothing for a missing value. -/
def cellText : Json → Except Failure String
  | .null => .ok ""
  | .str s => .ok s
  | _ => .error .notShown

/-- The cells that each column asks for. The columns are measured one after the other, and the first
cell whose markup is not right ends it. -/
def columnWidths (columns : List Column) (rows : List (List String)) :
    Except Failure (List Nat) :=
  columns.zipIdx.mapM fun (column, i) => do
    let widths ← rows.mapM fun row => Terminal.measured (row[i]?.getD "")
    return widths.foldl max (Terminal.cells column.title.toList)

/-- The lines of the cells of a row, as they are printed. -/
def printRow (columns : List Column) (widths : List Nat) (row : List String) :
    Except Failure (List (List String)) :=
  ((row.zip columns).zip widths).mapM fun ((cell, column), width) =>
    Terminal.printedIn width column.breaksLines cell

/-- The lines of a row: as many as its highest cell has. -/
def rowLines (cells : List (List String)) : List (List String) :=
  let height := (cells.map List.length).foldl max 0
  (List.range height).map fun i => cells.map fun lines => lines[i]?.getD ""

/-- The table of volumes with the given cells. It is measured before it is printed. A row whose
cells have several lines takes several rows of the table. -/
def volumeTable (cells : List (List Json)) : Except Failure Table := do
  let rows ← cells.mapM fun row => row.mapM cellText
  let widths ← columnWidths volumeColumns rows
  let printed ← rows.mapM (printRow volumeColumns widths)
  return ⟨s!"Volumes ({cells.length})", volumeColumns.map (·.title), printed.flatMap rowLines⟩

/-! ## Notes -/

/-- The name of a component in the log. -/
def componentName : Component → String
  | .platform => "backupdir.platform"
  | .resolver => "backupdir.resolver"
  | .selector => "backupdir.storage.volumes"
  | .store => "backupdir.storage.backend"

/-- Whether a note is printed where nobody asked for more. -/
def isUrgent : Level → Bool
  | .warning => true
  | .error => true
  | _ => false

/-- The text of the notes: all of them with their components, or only the urgent ones. -/
def noteText (verbose : Bool) (notes : List Note) : String :=
  if verbose then
    String.join (notes.map fun n => componentName n.component ++ ": " ++ n.text ++ "\n")
  else
    String.join ((notes.filter (isUrgent ·.level)).map fun n => n.text ++ "\n")

end BackupLocator.CommandLine
