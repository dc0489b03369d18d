import PagedTable.Table.Refresh

/-! # Operations on a table

All that can be done to a table. Nearly every operation brings the table up to
date before it ends. Content that arrives during a drag has to wait, so that
rows do not change under the pointer. -/

namespace PagedTable

inductive Shortcut where
  | previousPage
  | nextPage
  | firstPage
  | lastPage
  | abort
deriving DecidableEq, Repr

namespace Shortcut

def name : Shortcut → String
  | .previousPage => "Left"
  | .nextPage => "Right"
  | .firstPage => "Shift+Left"
  | .lastPage => "Shift+Right"
  | .abort => "Escape"

def ofName? (name : String) : Option Shortcut :=
  [previousPage, nextPage, firstPage, lastPage, abort].find? (·.name = name)

end Shortcut

namespace Table

/-! ## Content -/

/-- Replaces the content, at once or when the drag in progress ends. -/
def update (table : Table) (records : List Record) : Table :=
  if table.isDragging then { table with pending := some records }
  else { table with content := records }.refresh

/-- Forgets the cells of the first record with an identifier. -/
def forgetCells (id : RecordId) : List Record → List Record
  | [] => []
  | record :: rest =>
    if record.id = id then { record with cells := none } :: rest
    else record :: forgetCells id rest

def invalidate (table : Table) (id : RecordId) : Table :=
  if id ∈ table.contentIds then { table with content := forgetCells id table.content }.refresh
  else table

/-! ## Filters -/

def applyFilter (table : Table) (text : String) : Table :=
  let table := { table with query := .compile text, page := 1 }.refresh
  table.note [if table.query.isEmpty then .filterCleared else .filterApplied text]

/-- Drops the filter and stays on the current page where possible. -/
def clearFilter (table : Table) : Table :=
  { table with query := .empty }.refresh.note [.filterCleared]

def setExternal (table : Table) (external : Option (Record → Bool)) : Table :=
  { table with external }.refresh

/-! ## Pages -/

def setPageSize (table : Table) (size : Nat) (maxLinks : Option Nat) (showDots : Option Bool) :
    Table :=
  let options :=
    { table.options with
      pageSize := max size 1
      maxLinks := maxLinks.getD table.options.maxLinks
      showDots := showDots.getD table.options.showDots }
  { table with options, page := 1 }.refresh

def setPage (table : Table) (page : Nat) : Table :=
  { table with page }.refresh

/-- The page a pager entry leads to; none for the dots and for disabled ones. -/
def pageOf? (table : Table) : PagerEntry → Option Nat
  | .previous disabled => if disabled then none else some (table.page - 1)
  | .next disabled => if disabled then none else some (table.page + 1)
  | .page number _ => some number
  | .dots => none

def clickPager (table : Table) (entry : PagerEntry) : Bool × Table :=
  match table.pageOf? entry with
  | some page => (true, table.setPage page)
  | none => (false, table)

/-! ## Selection -/

def check (table : Table) (id : RecordId) (checked : Bool) : Table :=
  { table with selection := table.selection.set id checked }.refresh

def checkAll (table : Table) (checked : Bool) : Table :=
  { table with selection := table.selection.setAll checked table.filteredIds }.refresh

def clickItem (table : Table) (id : RecordId) (extend : Bool) : Table :=
  { table with selection := table.selection.click id extend table.filteredIds }.refresh

def clickTitle (table : Table) : Table :=
  { table with selection := table.selection.headerClick table.filteredIds }.refresh

/-! ## Drags -/

def takePending (table : Table) : Table :=
  { table with content := table.pending.getD table.content, pending := none }

def finishDrop (table : Table) (move : Option Move) : Table :=
  let table := table.takePending
  let effective := move.filter fun move => move.changes Record.id table.content
  let content := (effective.map fun move => move.apply Record.id table.content).getD table.content
  ({ table with content }.note [.dragEnded effective]).refresh

def finishCancelled (table : Table) : Table :=
  (table.note [.dragCancelled]).takePending.refresh

def cancelDrag (table : Table) : Bool × Table :=
  let result := table.gesture.cancel
  let table := { table with gesture := result.2 }
  if result.1 = .cancelled then (true, table.finishCancelled) else (false, table)

/-- A pointer goes down. Only rows on display can start a gesture. -/
def pointerDown (table : Table) (pointer : Nat) (row : Option RecordId) (line : Int) : Table :=
  let row := row.filter (· ∈ table.pageIds)
  let result := table.gesture.pointerDown pointer row line
  let table := { table with gesture := result.2 }
  if result.1 = .cancelled then table.finishCancelled else table

def pointerMove (table : Table) (pointer : Nat) (line : Int) (boxes : List RowBox) : Table :=
  let result :=
    table.gesture.pointerMove table.options.drag pointer line boxes table.selection
      table.contentIds
  let table := { table with gesture := result.2 }
  match result.1 with
  | .started _ => table.note [.dragStarted]
  | _ => table

/-- A pointer goes up. The answer is the row it was released on without a drag. -/
def pointerUp (table : Table) (pointer : Nat) (extend : Bool) : Option RecordId × Table :=
  let result := table.gesture.pointerUp pointer
  let table := { table with gesture := result.2 }
  match result.1 with
  | .released row =>
    (some row, if table.options.selectAnywhere then table.clickItem row extend else table)
  | .dropped move => (none, table.finishDrop move)
  | _ => (none, table)

def tick (table : Table) (now : Nat) (extent : Extent) : Option Int × Table :=
  let result := table.gesture.tick table.options.drag now extent
  (result.1, { table with gesture := result.2 })

def retarget (table : Table) (boxes : List RowBox) : Table :=
  { table with gesture := table.gesture.retarget boxes }

/-! ## Shortcuts -/

def shortcut (table : Table) : Shortcut → Bool × Table
  | .previousPage => (true, table.setPage (max (table.page - 1) 1))
  | .nextPage => (true, table.setPage (table.page + 1))
  | .firstPage => (true, table.setPage 1)
  | .lastPage => (true, table.setPage table.paging.pageCount)
  | .abort => table.cancelDrag

/-! ## All operations -/

inductive Operation where
  | update (records : List Record)
  | refresh
  | invalidate (id : RecordId)
  | applyFilter (text : String)
  | clearFilter
  | setExternal (external : Option (Record → Bool))
  | setPageSize (size : Nat) (maxLinks : Option Nat) (showDots : Option Bool)
  | setPage (page : Nat)
  | clickPager (entry : PagerEntry)
  | shortcut (shortcut : Shortcut)
  | check (id : RecordId) (checked : Bool)
  | checkAll (checked : Bool)
  | clickItem (id : RecordId) (extend : Bool)
  | clickTitle
  | pointerDown (pointer : Nat) (row : Option RecordId) (line : Int)
  | pointerMove (pointer : Nat) (line : Int) (boxes : List RowBox)
  | pointerUp (pointer : Nat) (extend : Bool)
  | cancelDrag
  | tick (now : Nat) (extent : Extent)
  | retarget (boxes : List RowBox)

inductive Reply where
  | nothing
  | done (effective : Bool)
  | row (id : Option RecordId)
  | scroll (step : Option Int)
deriving DecidableEq, Repr

def perform (table : Table) : Operation → Reply × Table
  | .update records => (.nothing, table.update records)
  | .refresh => (.nothing, table.refresh)
  | .invalidate id => (.nothing, table.invalidate id)
  | .applyFilter text => (.nothing, table.applyFilter text)
  | .clearFilter => (.nothing, table.clearFilter)
  | .setExternal external => (.nothing, table.setExternal external)
  | .setPageSize size maxLinks showDots => (.nothing, table.setPageSize size maxLinks showDots)
  | .setPage page => (.nothing, table.setPage page)
  | .clickPager entry => (table.clickPager entry).map .done id
  | .shortcut shortcut => (table.shortcut shortcut).map .done id
  | .check id checked => (.nothing, table.check id checked)
  | .checkAll checked => (.nothing, table.checkAll checked)
  | .clickItem id extend => (.nothing, table.clickItem id extend)
  | .clickTitle => (.nothing, table.clickTitle)
  | .pointerDown pointer row line => (.nothing, table.pointerDown pointer row line)
  | .pointerMove pointer line boxes => (.nothing, table.pointerMove pointer line boxes)
  | .pointerUp pointer extend => (table.pointerUp pointer extend).map .row id
  | .cancelDrag => table.cancelDrag.map .done id
  | .tick now extent => (table.tick now extent).map .scroll id
  | .retarget boxes => (.nothing, table.retarget boxes)

def run (table : Table) (operations : List Operation) : Table :=
  operations.foldl (fun table operation => (table.perform operation).2) table

end Table

end PagedTable
