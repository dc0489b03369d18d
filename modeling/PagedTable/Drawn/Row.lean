import PagedTable.Drawn.Serial
import PagedTable.Record

/-! # Cells and rows

What a page shows: rows of cells, each with classes that say how it is drawn. -/

namespace PagedTable

structure Cell where
  content : String
  classes : List String := []
deriving DecidableEq, Repr

namespace Cell

def addClass (cell : Cell) (name : String) : Cell :=
  if name ∈ cell.classes then cell
  else { cell with classes := cell.classes ++ [name] }

instance : Serial Cell where
  serial cell := " ".intercalate cell.classes ++ "|" ++ cell.content

end Cell

structure RowHead where
  id : RecordId
  classes : List String
deriving DecidableEq, Repr

structure Row (α : Type) where
  head : RowHead
  cells : List α
deriving DecidableEq, Repr

end PagedTable
