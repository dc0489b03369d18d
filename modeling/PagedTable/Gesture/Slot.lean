import PagedTable.Gesture.Move

/-! # Drop slots

Where a pointer would drop what it drags. Coordinates are lines of whatever
surface the rows are drawn on; only their order and distance matter. -/

namespace PagedTable

structure RowBox where
  id : RecordId
  top : Int
  height : Int
deriving DecidableEq, Repr

namespace RowBox

def middle (box : RowBox) : Int :=
  box.top + box.height.tdiv 2

def distance (box : RowBox) (line : Int) : Nat :=
  (line - box.middle).natAbs

/-- The first of the rows whose middle is nearest to a line. -/
def nearest? (line : Int) : List RowBox → Option RowBox
  | [] => none
  | box :: rest =>
    match nearest? line rest with
    | none => some box
    | some other => some (if other.distance line < box.distance line then other else box)

end RowBox

/-- The place next to the nearest row, on the pointer's side of its middle.
There is none when that row is itself moving. -/
def dropTarget (boxes : List RowBox) (moving : List RecordId) (line : Int) : Option Target :=
  match RowBox.nearest? line boxes with
  | none => none
  | some box =>
    if box.id ∈ moving then none
    else some ⟨box.id, if line < box.middle then .before else .after⟩

example : dropTarget [⟨.number 1, 0, 2⟩, ⟨.number 2, 2, 2⟩] [.number 1] 3 =
    some ⟨.number 2, .after⟩ := by
  decide

end PagedTable
