import PagedTable.Table.State

/-! # Settings -/

namespace PagedTable

structure Settings where
  table : TableOptions := {}
  refreshSeconds : Nat := 2
  /-- The columns searched by terms without a field; when none of them is in
  the file, all columns are. -/
  defaultFields : List String := []
  /-- The column that holds the identifiers; without one, rows are numbered. -/
  idColumn : Option String := none
deriving DecidableEq, Repr

end PagedTable
