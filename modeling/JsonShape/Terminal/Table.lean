import JsonShape.Number.Double
import JsonShape.Terminal.Wrap

/-!
# Tables

Rows of cells between ruled lines, under a header and a title.  A column is as wide as its widest
line, with a space at each side; but a table fits into the width of the terminal, and for that its
widest columns are made narrower.  A cell is wrapped in its column.
-/

namespace JsonShape

/-- A table of texts. -/
structure Table where
  title : Styled
  header : List Styled
  rows : List (List Styled)

namespace Table

/-! ### Widths of the columns -/

/-- Whether a line of text may end with a character. -/
def endsLine (c : CodePoint) : Bool :=
  (0x0A ≤ c.val && c.val ≤ 0x0D) || (0x1C ≤ c.val && c.val ≤ 0x1E) || c.val = 0x85
    || c.val = 0x2028 || c.val = 0x2029

/-- The cells of the widest line of a text. -/
def widest (t : Text) : Nat := ((t.splitWhere endsLine).map Text.width).foldl max 0

/-- The cells that the columns may take. -/
def room (t : Table) : Nat := terminalWidth - (t.header.length + 1)

/-- The cells that a text wants for its column, a space at each side among them. -/
def wanted (room : Nat) (s : Styled) : Nat := min room (widest s.text + 2)

/-- Takes cells away from the columns of a width; `sharers` of them share `excess`, none gives more
than `most`. -/
def narrowed (width most : Nat) : (excess sharers : Nat) → List Nat → List Nat
  | _, _, [] => []
  | excess, sharers, w :: ws =>
    if w = width then
      let given := min most (Double.roundDiv excess sharers)
      (w - given) :: narrowed width most (excess - given) (sharers - 1) ws
    else w :: narrowed width most excess sharers ws

/-- Columns that fit: again and again the widest ones are narrowed, no further than to the next
width. -/
def fitted (room : Nat) : (fuel : Nat) → List Nat → List Nat
  | 0, ws => ws
  | fuel + 1, ws =>
    let excess := ws.foldl (· + ·) 0 - room
    if excess = 0 then ws
    else
      let first := ws.foldl max 0
      let second := (ws.filter (· ≠ first)).foldl max 0
      fitted room fuel (narrowed first (min excess (first - second)) excess (ws.count first) ws)

/-- The widths of the columns. -/
def columnWidths (t : Table) : List Nat :=
  let wants := t.header.map (wanted t.room)
  let ws := t.rows.foldl (fun ws row => List.zipWith max ws (row.map (wanted t.room))) wants
  fitted t.room (ws.foldl (· + ·) 0) ws

/-! ### Printing -/

/-- The lines of a cell in a column. -/
def cellParts (width : Nat) (s : Styled) : List Styled := s.wrap (width - 2) .left .ellipsis

/-- The printed lines of a cell in a column. -/
def cellLines (width : Nat) (s : Styled) : List Text :=
  let margin := Text.spaces 1
  (cellParts width s).map fun line =>
    (Runs.fit width (margin :: Runs.fit (width - 2) line.runs ++ [margin])).flatten

/-- One printed line of a row, between bars. -/
def rowLine (bar : Text) (parts : List Text) : Text :=
  bar ++ (parts.map fun p => p ++ bar).flatten ++ "\n"

/-- The printed lines of a row; below the last line of a cell its column is blank. -/
def rowText (bar : Text) (widths : List Nat) (cells : List Styled) : Text :=
  let columns := List.zipWith cellLines widths cells
  let height := (columns.map List.length).foldl max 0
  let part (i : Nat) (w : Nat) (lines : List Text) : Text := (lines[i]?).getD (Text.spaces w)
  (List.range height).flatMap fun i => rowLine bar (List.zipWith (part i) widths columns)

/-- A ruled line. -/
def ruleText (left line cross right : CodePoint) (widths : List Nat) : Text :=
  [left] ++ Text.join [cross] (widths.map fun w => List.replicate w line) ++ [right, '\n']

/-- The cells of a line of the table. -/
def wholeWidth (widths : List Nat) : Nat := widths.foldl (· + ·) (widths.length + 1)

/-- The lines of the title, in the middle of the table. -/
def titleParts (whole : Nat) (title : Styled) : List Styled := title.wrap whole .center .fold

/-- The printed lines of the title. -/
def titleText (whole : Nat) (title : Styled) : Text :=
  (titleParts whole title).flatMap fun line => line.text ++ Text.ofString "\n"

/-- All lines that the texts of the table are laid out in. -/
def parts (t : Table) : List Styled :=
  let widths := t.columnWidths
  titleParts (wholeWidth widths) t.title
    ++ (t.header :: t.rows).flatMap fun cells => (List.zipWith cellParts widths cells).flatten

/-- **The printed table.** -/
def text (t : Table) : Text :=
  let widths := t.columnWidths
  titleText (wholeWidth widths) t.title
    ++ ruleText '┏' '━' '┳' '┓' widths
    ++ rowText "┃" widths t.header
    ++ ruleText '┡' '━' '╇' '┩' widths
    ++ (t.rows.map (rowText "│" widths)).flatten
    ++ ruleText '└' '─' '┴' '┘' widths

end Table

end JsonShape
