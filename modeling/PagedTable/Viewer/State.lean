import PagedTable.Number.Decimal
import PagedTable.Source.Load
import PagedTable.Table.Operation
import PagedTable.Viewer.Body
import PagedTable.Viewer.FilterEntry
import PagedTable.Viewer.Layout

/-! # The viewer

The viewer shows a delimited file as a table. The columns of the table are the
columns of the file, and what the table has to say about drags ends up in a
message line. -/

namespace PagedTable

inductive Mode where
  | normal
  | filter
deriving DecidableEq, Repr

def Mode.name : Mode → String
  | .normal => "NORMAL"
  | .filter => "FILTER"

structure Viewer where
  table : Table
  body : Body := {}
  mode : Mode := .normal
  entry : FilterEntry := {}
  headers : List String
  source : Source
  settings : Settings
  message : Option String := none
  quit : Bool := false
  watch : Bool := false
  /-- The revision of the file that was read last. -/
  lastRevision : Option Nat := none
  lastCheck : Nat := 0
  pagerArea : Rect := {}

def numericClass : String := "numeric"

def markNumber (cell : Cell) : Cell :=
  if isNumeric cell.content.toList then cell.addClass numericClass else cell

def cellsUnder (headers : List String) (record : Record) : List String :=
  headers.map fun name => (record.value? name).getD ""

def headerHooks (headers : List String) : Hooks where
  fill := some (cellsUnder headers)
  render := fun cell _ _ => markNumber cell

def warningText? : List Warning → Option String
  | [] => none
  | warnings => some ("; ".intercalate (warnings.map Warning.message))

namespace Viewer

def ofLoaded (source : Source) (settings : Settings) (watch : Bool) (revision : Option Nat)
    (loaded : Loaded) : Viewer :=
  let table : Table := { options := settings.table, hooks := headerHooks loaded.headers }
  { table := table.update loaded.records
    headers := loaded.headers
    source, settings, watch
    message := warningText? loaded.warnings
    lastRevision := revision }

def start (source : Source) (settings : Settings) (watch : Bool) (file : Option File) :
    Except ReadError Viewer :=
  (source.load settings file).map (ofLoaded source settings watch (file.map File.revision))

def pageLength (viewer : Viewer) : Nat :=
  viewer.table.rows.length

def moveToTop (viewer : Viewer) : Viewer :=
  { viewer with body := viewer.body.moveToTop }

/-- Lays everything out anew on a part of the screen. Above the first row of the
table are its border and its header. -/
def layOut (viewer : Viewer) (area : Rect) : Viewer :=
  let layout := Layout.of area
  let body :=
    { viewer.body with
      top := layout.table.top + 2
      left := layout.table.left + 1
      height := max (layout.table.height - 3) 1 }
  { viewer with pagerArea := layout.pager, body := body.clamp viewer.pageLength }

end Viewer

end PagedTable
