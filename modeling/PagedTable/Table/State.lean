import PagedTable.Drawn.Patch
import PagedTable.Filter.Match
import PagedTable.Gesture.Drag
import PagedTable.Paging.Bar

/-! # Tables

A table owns a list of records. It keeps the page on display, the pager bar and
the selection in step with that list, with the filter and with the page number,
and it takes part in the gesture that reorders rows.

What the owner of the table is told of is kept in a journal until it is read. -/

namespace PagedTable

structure TableOptions where
  pageSize : Nat := 10
  maxLinks : Nat := 5
  showDots : Bool := true
  /-- A click anywhere on a row toggles its check box. -/
  selectAnywhere : Bool := false
  infoEmpty : String := "No records"
  drag : DragTuning := {}
deriving DecidableEq, Repr

structure Hooks where
  /-- The texts of a record's cells, asked for when it is first shown. -/
  fill : Option (Record → List String) := none
  render : Cell → Nat → Record → Cell := fun cell _ _ => cell

structure Stats where
  total : Nat := 0
  filtered : Nat := 0
  pageRows : Nat := 0
  current : Nat := 0
  pageCount : Nat := 0
  checked : Nat := 0
  pageChecked : Nat := 0
  info : String := ""
deriving DecidableEq, Repr

inductive Notice where
  | filled (id : RecordId)
  | filterApplied (text : String)
  | filterCleared
  | rowsUpdated (stats : Stats)
  | dragStarted
  /-- A drag ended in a drop, with the move unless nothing moved. -/
  | dragEnded (move : Option Move)
  | dragCancelled
deriving DecidableEq, Repr

structure Table where
  options : TableOptions := {}
  hooks : Hooks := {}
  content : List Record := []
  pending : Option (List Record) := none
  query : Query := .empty
  external : Option (Record → Bool) := none
  /-- The places in the content of the records that pass the filters. -/
  filtered : List Nat := []
  page : Nat := 1
  paging : Paging := .empty
  /-- The part of `filtered` on display. -/
  pageSpan : Span := ⟨0, 0⟩
  selection : Selection := {}
  rows : List (Row Cell) := []
  bar : List PagerEntry := []
  rowEdits : List RowEdit := []
  barEdits : List Edit := []
  stats : Stats := {}
  gesture : Gesture := .idle
  journal : List Notice := []

namespace Table

def contentIds (table : Table) : List RecordId :=
  table.content.map Record.id

def filteredRecords (table : Table) : List Record :=
  table.filtered.filterMap (table.content[·]?)

def filteredIds (table : Table) : List RecordId :=
  table.filteredRecords.map Record.id

def pageRecords (table : Table) : List Record :=
  (table.pageSpan.of table.filtered).filterMap (table.content[·]?)

def pageIds (table : Table) : List RecordId :=
  table.pageRecords.map Record.id

def isFiltered (table : Table) : Bool :=
  !table.query.isEmpty || table.external.isSome

def accepts (table : Table) (record : Record) : Bool :=
  table.query.accepts record && table.external.all (· record)

def pageChecked (table : Table) : Nat :=
  table.pageIds.countP table.selection.isChecked

def headerCheck (table : Table) : HeaderCheck :=
  table.selection.header table.filteredIds

def isDragging (table : Table) : Bool :=
  table.gesture.isDragging

def preview? (table : Table) : Option (List RecordId) :=
  table.gesture.preview? table.pageIds

def note (table : Table) (notices : List Notice) : Table :=
  { table with journal := table.journal ++ notices }

def readJournal (table : Table) : List Notice × Table :=
  (table.journal, { table with journal := [] })

end Table

end PagedTable
