import PagedTable.Drawn.Row

/-! # Patching

A page is always built afresh, but it is not drawn afresh. The page on display
is compared with the new one place by place, and only what has another serial
text is replaced. All else stays the very thing it was, so that whatever hangs
on it (the focus, a pointer in flight) is not disturbed. -/

namespace PagedTable

inductive Edit where
  | replaced (place : Nat)
  | appended (place : Nat)
  | removed (place : Nat)
deriving DecidableEq, Repr

inductive RowEdit where
  /-- The row stands for another record or has other classes. -/
  | head (row : Nat)
  | cell (row : Nat) (edit : Edit)
  | appended (row : Nat)
  | removed (row : Nat)
deriving DecidableEq, Repr

section List

variable {α : Type} [Serial α]

/-- The new list, with the old element wherever the serial text is the same. -/
def patch : List α → List α → List α
  | _, [] => []
  | [], new => new
  | head :: old, fresh :: new =>
    (if serial head = serial fresh then head else fresh) :: patch old new

/-- What `patch` does, for lists whose first element stands at a given place.
What is in excess is removed from the end. -/
def editsFrom (place : Nat) : List α → List α → List Edit
  | old, [] => (List.range' place old.length).reverse.map .removed
  | [], new => (List.range' place new.length).map .appended
  | head :: old, fresh :: new =>
    (if serial head = serial fresh then [] else [.replaced place]) ++
      editsFrom (place + 1) old new

def edits (old new : List α) : List Edit :=
  editsFrom 0 old new

/-- The new rows, with the old cells wherever the serial text is the same. -/
def patchRows : List (Row α) → List (Row α) → List (Row α)
  | _, [] => []
  | [], new => new
  | row :: old, fresh :: new =>
    ⟨fresh.head, patch row.cells fresh.cells⟩ :: patchRows old new

def rowEditsFrom (place : Nat) : List (Row α) → List (Row α) → List RowEdit
  | old, [] => (List.range' place old.length).reverse.map .removed
  | [], new => (List.range' place new.length).map .appended
  | row :: old, fresh :: new =>
    (if row.head = fresh.head then [] else [.head place]) ++
      (edits row.cells fresh.cells).map (.cell place) ++
      rowEditsFrom (place + 1) old new

def rowEdits (old new : List (Row α)) : List RowEdit :=
  rowEditsFrom 0 old new

end List

example : edits [Cell.mk "a" [], ⟨"b", []⟩, ⟨"c", []⟩] [⟨"a", []⟩, ⟨"x", []⟩] =
    [.replaced 1, .removed 2] := by
  decide

end PagedTable
