import Deminify.Console.Markup
import Deminify.Number.Shortest
import Deminify.Text.Width

/-!
# The console

What a command says: lines, tables, and tables of times. Messages and the cells of tables are written
in the markup, and what is shown of them is their text. A cell of several lines makes its row as
high.

* `Deminify.Console.Block`, `Deminify.Console.Table` – what is shown;
* `Deminify.Console.shownLines` – the lines of a text as they are shown;
* `Deminify.Console.Table.ofMarkup` – **the table of cells in markup**;
* `Deminify.Console.Block.lines` – the lines of a block, the columns of a table aligned.
-/

namespace Deminify.Console

/-- A table with a title. -/
structure Table where
  title : String
  header : List String
  rows : List (List String)
  deriving Repr

/-- What is shown at once. -/
inductive Block where
  | line (text : String)
  | table (table : Table)
  /-- Times in milliseconds, by what they were spent on. -/
  | times (title label : String) (totals : List (String × Binary64))
  deriving Repr

/-! ### Lines -/

/-- Whether a character moves the writing head instead of showing something; such ones are left
out. -/
def isControl (c : Char) : Bool :=
  c == '\x07' || c == '\x08' || c == '\x0b' || c == '\x0c' || c == '\r'

/-- The line with every tab made up with blanks to the next column of eight; `column` cells stand
before it. -/
def expandTabs (column : Nat) : List Char → List Char
  | [] => []
  | '\t' :: rest =>
    let width := 8 - column % 8
    List.replicate width ' ' ++ expandTabs (column + width) rest
  | c :: rest => c :: expandTabs (column + Text.cellWidth c) rest

/-- The lines of a text as they are shown. -/
def shownLines (text : String) : List String :=
  let plain := String.ofList (text.toList.filter (!isControl ·))
  (plain.splitOn "\n").map fun line => String.ofList (expandTabs 0 line.toList)

/-! ### Tables -/

/-- The rows of lines that a row takes of which each cell has some lines. -/
def rowLines (cells : List (List String)) : List (List String) :=
  let height := (cells.map List.length).foldl max 0
  (List.range height).map fun i => cells.map fun lines => (lines[i]?).getD ""

/-- The cells of a table without their tags. The columns are gone through one after the other, so
that of two failures the one further to the left counts. -/
def unstyledCells (rows : List (List String)) : Except Failure (List (List String)) := do
  let columns := (rows.map List.length).foldl max 0
  for i in List.range columns do
    for cells in rows do
      let _ ← unstyled ((cells[i]?).getD "")
  rows.mapM (·.mapM unstyled)

/-- The table of cells in markup. -/
def Table.ofMarkup (title : String) (header : List String) (rows : List (List String)) :
    Except Failure Table := do
  let shown ← unstyledCells rows
  return { title, header, rows := shown.flatMap fun cells => rowLines (cells.map shownLines) }

/-- The text with blanks behind it to make up the width. -/
def padRight (width : Nat) (text : String) : String :=
  text ++ String.ofList (List.replicate (width - text.length) ' ')

/-- The widths of the columns: each is as wide as its widest cell. -/
def columnWidths (rows : List (List String)) : List Nat :=
  let columns := (rows.map List.length).foldl max 0
  (List.range columns).map fun i =>
    (rows.map fun cells => ((cells[i]?).getD "").length).foldl max 0

/-- A row with its cells made up to the widths. -/
def rowLine (widths : List Nat) (cells : List String) : String :=
  Text.stripEnd (String.intercalate "  " (List.zipWith padRight widths cells))

/-- The lines of a table: the title, the header and the rows. -/
def Table.lines (t : Table) : List String :=
  let widths := columnWidths (t.header :: t.rows)
  t.title :: rowLine widths t.header :: t.rows.map (rowLine widths)

/-- A time with one place. -/
def tenths (x : Binary64) : String :=
  let (num, den) := Binary64.ratioOf x.significand x.exponent
  let n := Binary64.roundDiv (10 * num) den
  (if x.negative then "-" else "") ++ toString (n / 10) ++ "." ++ toString (n % 10)

/-- The lines of a block. -/
def Block.lines : Block → List String
  | .line text => [text]
  | .table t => t.lines
  | .times title label totals =>
    Table.lines ⟨title, [label, "Time (ms)"], totals.map fun (key, x) => [key, tenths x]⟩

end Deminify.Console
