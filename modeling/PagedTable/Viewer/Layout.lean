import PagedTable.Paging.Bar
import PagedTable.Text.DisplayWidth

/-! # Layout

Where on the screen everything is drawn: the table on top, and below it one
line each for the pager, the status and the command. -/

namespace PagedTable

open Text

structure Rect where
  left : Nat := 0
  top : Nat := 0
  width : Nat := 0
  height : Nat := 0
deriving DecidableEq, Repr

namespace Rect

/-- The greatest number of columns, of lines and of cells that an area can
have. -/
def sizeLimit : Nat := 0xffff

/-- An area of the shape of another one that has too many cells. Its sides are
computed in floating point and cut down to whole numbers. -/
def shrunk (area : Rect) : Rect :=
  let shape := area.width.toFloat / area.height.toFloat
  let height := (sizeLimit.toFloat / shape).sqrt
  { area with width := (height * shape).toUInt16.toNat, height := height.toUInt16.toNat }

def fitted (area : Rect) : Rect :=
  if sizeLimit < area.width * area.height then area.shrunk else area

/-- The line after the last one of an area. No line lies beyond the limit. -/
def bottom (area : Rect) : Nat :=
  min (area.top + area.height) sizeLimit

end Rect

structure Layout where
  table : Rect
  pager : Rect
  status : Rect
  command : Rect
deriving DecidableEq, Repr

namespace Layout

/-- The least number of lines of the table, and the number of lines below it. -/
def leastTableLines : Nat := 3

def lowerLines : Nat := 3

def thirds (count lines : Nat) : Nat :=
  (2 * count * lines + 3) / 6

/-- Divides an area. Below the table there is one line each for the pager, the
status and the command, and the table has the lines above them. Where an area
has too few lines, those that the table leaves are shared out evenly. -/
def of (area : Rect) : Layout :=
  let area := area.fitted
  let lines := area.bottom - area.top
  let lower := min lowerLines (lines - leastTableLines)
  let pagerTop := area.bottom - lower
  let statusTop := pagerTop + thirds 1 lower
  let commandTop := pagerTop + thirds 2 lower
  { table := { area with height := lines - lower }
    pager := { area with top := pagerTop, height := statusTop - pagerTop }
    status := { area with top := statusTop, height := commandTop - statusTop }
    command := { area with top := commandTop, height := area.bottom - commandTop } }

example : (of ⟨0, 0, 80, 24⟩).pager = ⟨0, 21, 80, 1⟩ := by decide

example : (of ⟨0, 65530, 10, 6⟩).status = ⟨0, 65534, 10, 0⟩ := by decide

end Layout

def PagerEntry.width (entry : PagerEntry) : Nat :=
  displayWidth entry.label.toList + 2

/-- The place of the entry drawn at a column, when the bar starts at another
and a blank stands between its entries. -/
def entryAt? (column : Nat) (left : Nat) : List PagerEntry → Option Nat
  | [] => none
  | entry :: rest =>
    if left ≤ column ∧ column < left + entry.width then some 0
    else (entryAt? column (left + entry.width + 1) rest).map (· + 1)

/-- How many values a column width can have; wider columns wrap around. -/
def widthLimit : Nat := 0x10000

/-- The columns each column of the table takes: those of its header or of its
widest cell, and never less than three. -/
def columnWidths (headers : List String) (rows : List (List String)) : List Nat :=
  headers.mapIdx fun column header =>
    let widths := rows.filterMap fun row =>
      (row[column]?).map fun content => displayWidth content.toList
    max (max (widths.foldl max 0) (displayWidth header.toList)) 3 % widthLimit

end PagedTable
