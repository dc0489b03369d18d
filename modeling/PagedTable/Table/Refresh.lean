import PagedTable.Table.State

/-! # Bringing a table up to date

After every change the filtered list, the selection, the pager, the rows and
the figures are made anew, in this order, from what they depend on. -/

namespace PagedTable

def checkedClass : String := "checked"

def Record.fill (hooks : Hooks) (record : Record) : Record :=
  match record.cells with
  | some _ => record
  | none => { record with cells := some ((hooks.fill.map (· record)).getD []) }

namespace Table

def refilter (table : Table) : Table :=
  { table with
    filtered := (table.content.zipIdx.filter fun entry => table.accepts entry.1).map (·.2) }

def revalidate (table : Table) : Table :=
  { table with selection := table.selection.validate table.contentIds }

def repage (table : Table) : Table :=
  let total := table.filtered.length
  let paging :=
    Paging.paginate total table.options.pageSize table.page table.options.maxLinks
  let bar := paging.bar table.options.showDots
  { table with
    paging
    page := paging.current
    pageSpan := Paging.pageSpan total table.options.pageSize paging.current
    bar := patch table.bar bar
    barEdits := edits table.bar bar }

def fillPage (table : Table) : Table :=
  let places := table.pageSpan.of table.filtered
  let unfilled := table.pageRecords.filter (·.cells.isNone)
  let filled : Table :=
    { table with
      content := table.content.zipIdx.map fun entry =>
        if entry.2 ∈ places then entry.1.fill table.hooks else entry.1 }
  if table.hooks.fill.isSome then filled.note (unfilled.map (.filled ·.id)) else filled

def buildRow (table : Table) (record : Record) : Row Cell :=
  { head :=
      { id := record.id
        classes := if table.selection.isChecked record.id then [checkedClass] else [] }
    cells := (record.cells.getD []).mapIdx fun column text =>
      table.hooks.render { content := text } column record }

def redraw (table : Table) : Table :=
  let rows := table.pageRecords.map table.buildRow
  { table with
    rows := patchRows table.rows rows
    rowEdits := PagedTable.rowEdits table.rows rows }

def infoText (table : Table) : String :=
  let total := table.content.length
  if total = 0 then table.options.infoEmpty
  else if table.page = 0 then "No matching records found (total " ++ toString total ++ ")"
  else
    "Showing records " ++ toString (table.pageSpan.start + 1) ++ "-" ++
      toString (table.pageSpan.start + table.pageSpan.length) ++
      " from " ++ toString table.filtered.length ++
      if table.isFiltered then " filtered (total " ++ toString total ++ ")" else ""

def recount (table : Table) : Table :=
  { table with
    stats :=
      { total := table.content.length
        filtered := table.filtered.length
        pageRows := table.pageSpan.length
        current := table.page
        pageCount := table.paging.pageCount
        checked := table.selection.count
        pageChecked := table.pageChecked
        info := table.infoText } }

def refresh (table : Table) : Table :=
  let table := table.refilter.revalidate.repage.fillPage.redraw.recount
  table.note [.rowsUpdated table.stats]

end Table

end PagedTable
