import PagedTable.Gesture.Drag
import PagedTable.Span

/-! # The body of the table on screen

The body shows as many rows of a page as it has lines. A cursor walks over all
rows of the page, and the body follows it. -/

namespace PagedTable

structure Body where
  cursor : Nat := 0
  first : Nat := 0
  height : Nat := 20
  /-- The line of the first row. -/
  top : Nat := 0
  left : Nat := 0
deriving DecidableEq, Repr

namespace Body

/-- The columns of the check boxes, with the blank after them. -/
def checkWidth : Nat := 4

def showCursor (body : Body) : Body :=
  let height := max body.height 1
  if body.cursor < body.first then { body with first := body.cursor }
  else if body.first + height ≤ body.cursor then { body with first := body.cursor + 1 - height }
  else body

def clamp (body : Body) (pageLength : Nat) : Body :=
  { body with
    cursor := min body.cursor (pageLength - 1)
    first := min body.first (pageLength - body.height) }.showCursor

def moveUp (body : Body) : Body :=
  if 0 < body.cursor then { body with cursor := body.cursor - 1 }.showCursor else body

def moveDown (body : Body) (pageLength : Nat) : Body :=
  if body.cursor + 1 < pageLength then { body with cursor := body.cursor + 1 }.showCursor
  else body

def moveToTop (body : Body) : Body :=
  { body with cursor := 0, first := 0 }

/-- A number in the range of signed integers of some bits, into which larger
ones wrap around. -/
def signed (bits number : Nat) : Int :=
  (number : Int).bmod (Nat.pow 2 bits)

/-- Scrolls by a number of rows, as far as the page goes. The cursor stays. -/
def scrollBy (body : Body) (step : Int) (pageLength : Nat) : Body :=
  { body with first := min (signed 64 body.first + step).toNat (pageLength - body.height) }

def visible (body : Body) (pageLength : Nat) : Span :=
  let start := min body.first pageLength
  ⟨start, min (start + body.height) pageLength⟩

def rowAt? (body : Body) (line pageLength : Nat) : Option Nat :=
  let row := body.first + (line - body.top)
  if body.top ≤ line ∧ (body.visible pageLength).Holds row then some row else none

def isCheckColumn (body : Body) (column : Nat) : Bool :=
  body.left ≤ column && column < body.left + checkWidth

def boxes (body : Body) (page : List RecordId) : List RowBox :=
  let visible := body.visible page.length
  (visible.places.zip (visible.of page)).map fun entry =>
    ⟨entry.2, (body.top : Int) + (entry.1 - body.first : Nat), 1⟩

def extent (body : Body) : Extent :=
  ⟨body.top, signed 32 body.height⟩

end Body

end PagedTable
