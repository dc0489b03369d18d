import PagedTable.Screen.Line
import PagedTable.Viewer.Event

/-! # Drawing

What the screen looks like: the table in its border, then the pager bar, the
status line and the command line. -/

namespace PagedTable

structure Screen where
  lines : List Line
  cursor : Option (Nat × Nat)
deriving DecidableEq, Repr

def boxWidth : Nat := 3

def boxText (checked : Bool) : String :=
  if checked then "[x]" else "[ ]"

def HeaderCheck.boxText : HeaderCheck → String
  | .unchecked => "[ ]"
  | .partly => "[-]"
  | .checked => "[x]"

namespace Viewer

/-! ## The table -/

def frameLine (width : Nat) (first inner last : String) : Line :=
  { text := first } :: Line.filled (width - 2) inner ++ [{ text := last }]

/-- The upper border with the title in it, which ends where its glyphs would
end if each kept to its own columns. -/
def topBorder (width : Nat) (title : String) : Line :=
  let text := " " ++ title ++ " "
  (frameLine width "┌" "─" "┐").putText (1 + min (placedWidth text) (width - 2)) 1 text

def bottomBorder (width : Nat) : Line :=
  frameLine width "└" "─" "┘"

def emptyLine (width : Nat) : Line :=
  frameLine width "│" " " "│"

def writeColumns (start : Nat) : List (Nat × Line.Piece) → Line → Line
  | [], line => line
  | (width, piece) :: rest, line =>
    let stop := min (start + width) (line.length - 1)
    let line := (line.paint start stop piece.style).putText stop start (firstLine piece.text)
    writeColumns (start + width + 1) rest line

def headerStyle : Style := { ink := some .cyan, bold := true }

def headerLine (viewer : Viewer) (width : Nat) (widths : List Nat) : Line :=
  let texts := viewer.table.headerCheck.boxText :: viewer.headers
  writeColumns 1 (widths.zip (texts.map fun text => ⟨text, headerStyle⟩)) (emptyLine width)

def dropStyle : Placement → Style
  | .before => { reversed := true }
  | .after => { underlined := true }

def rowMark (viewer : Viewer) (id : RecordId) (atCursor : Bool) : Style :=
  match viewer.table.gesture with
  | .dragging drag =>
    if id ∈ drag.moving then { ground := some .darkGray, bold := true }
    else match drag.target with
      | some target => if target.anchor = id then dropStyle target.placement else {}
      | none => {}
  | _ => if atCursor then { ground := some .blue, ink := some .white } else {}

def rowStyle (viewer : Viewer) (row : Row Cell) (atCursor : Bool) : Style :=
  (viewer.rowMark row.head.id atCursor).onto
    (if checkedClass ∈ row.head.classes then { ink := some .yellow } else {})

def cellPiece (cell : Cell) : Line.Piece :=
  ⟨cell.content, if numericClass ∈ cell.classes then { ink := some .lightBlue } else {}⟩

def rowLine (viewer : Viewer) (width : Nat) (widths : List Nat) (row : Row Cell)
    (atCursor : Bool) : Line :=
  let check : Line.Piece := ⟨boxText (checkedClass ∈ row.head.classes), {}⟩
  let ground := (emptyLine width).paint 1 (width - 1) (viewer.rowStyle row atCursor)
  writeColumns 1 (widths.zip (check :: row.cells.map cellPiece)) ground

def shownRows (viewer : Viewer) : List (Row Cell × Nat) :=
  let visible := viewer.body.visible viewer.pageLength
  (visible.of viewer.table.rows).zip visible.places

def shownWidths (viewer : Viewer) : List Nat :=
  boxWidth :: columnWidths viewer.headers
    (viewer.shownRows.map fun entry => entry.1.cells.map Cell.content)

def tableLines (viewer : Viewer) (area : Rect) : List Line :=
  let widths := viewer.shownWidths
  let body := (viewer.shownRows.take (area.height - 3)).map fun entry =>
    viewer.rowLine area.width widths entry.1 (entry.2 = viewer.body.cursor)
  let empty := List.replicate (area.height - 3 - body.length) (emptyLine area.width)
  topBorder area.width viewer.source.path :: viewer.headerLine area.width widths ::
    (body ++ empty ++ [bottomBorder area.width])

/-! ## The lines below the table -/

def entryStyle (entry : PagerEntry) : Style :=
  if entry.isActive then { ground := some .blue, ink := some .white, bold := true }
  else if entry.isDisabled then { ink := some .darkGray }
  else { ink := some .cyan }

def entryPieces (entry : PagerEntry) : List Line.Piece :=
  [⟨" " ++ entry.label ++ " ", entryStyle entry⟩, ⟨" ", {}⟩]

def pagerLine (viewer : Viewer) (width : Nat) : Line :=
  (Line.blank width).write (viewer.table.bar.flatMap entryPieces)

def modeStyle : Mode → Style
  | .normal => { ground := some .blue, ink := some .white, bold := true }
  | .filter => { ground := some .yellow, ink := some .black, bold := true }

def statusPieces (viewer : Viewer) : List Line.Piece :=
  let filter := viewer.table.query.text
  let checked := viewer.table.selection.count
  [⟨" " ++ viewer.mode.name ++ " ", modeStyle viewer.mode⟩, ⟨" ", {}⟩]
    ++ (if viewer.table.isDragging then [⟨"DRAG ", { ink := some .magenta }⟩] else [])
    ++ (if filter = "" then [] else [⟨"/" ++ filter ++ " ", { ink := some .yellow }⟩])
    ++ (if checked = 0 then [] else [⟨toString checked ++ " checked ", {}⟩])

def statusLine (viewer : Viewer) (width : Nat) : Line :=
  let left := viewer.statusPieces
  let info := viewer.table.stats.info ++ " "
  let used := ((left.map (·.text)) ++ [info]).map (Text.displayWidth ·.toList)
  let padding := String.ofList (List.replicate (width - used.foldl (· + ·) 0) ' ')
  ((Line.blank width).paint 0 width { ground := some .darkGray }).write
    (left ++ [⟨padding, {}⟩, ⟨info, {}⟩])

def commandText (viewer : Viewer) : String :=
  match viewer.mode with
  | .normal => viewer.message.getD ""
  | .filter => "/" ++ viewer.entry.buffer

def commandLine (viewer : Viewer) (width : Nat) : Line :=
  (Line.blank width).write [⟨firstLine viewer.commandText, {}⟩]

/-- The cursor stands behind the text of a filter while it is entered, and
always on the screen. -/
def cursor? (viewer : Viewer) (area : Rect) : Option (Nat × Nat) :=
  match viewer.mode with
  | .normal => none
  | .filter =>
    let column := area.left + 1 + Text.displayWidth viewer.entry.buffer.toList
    some (min column (area.left + (area.width - 1)), area.top)

def draw (viewer : Viewer) (width height : Nat) : Screen :=
  let layout := Layout.of ⟨0, 0, width, height⟩
  let width := layout.table.width
  { lines := viewer.tableLines layout.table ++
      [viewer.pagerLine width, viewer.statusLine width, viewer.commandLine width]
    cursor := viewer.cursor? layout.command }

end Viewer

end PagedTable
