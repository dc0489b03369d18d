import PagedTable.Record

/-! # Moves

A move takes some rows out of a list and puts them back next to another row.
The rows that move keep their order, and so do the rest. -/

namespace PagedTable

inductive Placement where
  | before
  | after
deriving DecidableEq, Repr

structure Target where
  anchor : RecordId
  placement : Placement
deriving DecidableEq, Repr

structure Move where
  /-- What moves, in the order it had before. -/
  ids : List RecordId
  target : Target
deriving DecidableEq, Repr

namespace Move

/-- Whether a list has the anchor, and the anchor stays where it is. -/
def applies (move : Move) (ids : List RecordId) : Bool :=
  !move.ids.contains move.target.anchor && ids.contains move.target.anchor

def insertAt {α : Type} (target : Target) (idOf : α → RecordId) (block : List α) :
    List α → List α
  | [] => block
  | item :: rest =>
    if idOf item = target.anchor then
      match target.placement with
      | .before => block ++ item :: rest
      | .after => item :: block ++ rest
    else item :: insertAt target idOf block rest

def apply {α : Type} (move : Move) (idOf : α → RecordId) (items : List α) : List α :=
  if move.applies (items.map idOf) then
    insertAt move.target idOf
      (items.filter fun item => move.ids.contains (idOf item))
      (items.filter fun item => !move.ids.contains (idOf item))
  else items

def changes {α : Type} (move : Move) (idOf : α → RecordId) (items : List α) : Bool :=
  (move.apply idOf items).map idOf ≠ items.map idOf

example : (Move.mk [.number 4, .number 2] ⟨.number 1, .before⟩).apply id
      [.number 1, .number 2, .number 3, .number 4] =
    [.number 2, .number 4, .number 1, .number 3] := by
  decide

end Move

end PagedTable
