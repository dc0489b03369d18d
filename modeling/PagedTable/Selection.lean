import PagedTable.Record
import PagedTable.Span

/-! # Selection

Which records are checked, whatever page or filter is on display. Identifiers
that are not in the content are tolerated: they can be checked, but they are
not counted, and the next look at the content drops them. -/

namespace PagedTable

inductive HeaderCheck where
  | unchecked
  | partly
  | checked
deriving DecidableEq, Repr

structure Selection where
  checked : List RecordId := []
  /-- The identifiers of the content when it was last looked at. -/
  known : List RecordId := []
  /-- How many checked identifiers are known. -/
  count : Nat := 0
  lastClicked : Option RecordId := none
  nodup : checked.Nodup := by first | exact List.nodup_nil | decide
deriving DecidableEq, Repr

namespace Selection

def isChecked (selection : Selection) (id : RecordId) : Bool :=
  id ∈ selection.checked

theorem isChecked_iff {selection : Selection} {id : RecordId} :
    selection.isChecked id = true ↔ id ∈ selection.checked :=
  decide_eq_true_iff

theorem nodup_checked_append {selection : Selection} {id : RecordId}
    (absent : ¬selection.isChecked id = true) : (selection.checked ++ [id]).Nodup := by
  refine List.nodup_append.mpr ⟨selection.nodup, List.pairwise_singleton _ _, ?_⟩
  intro other checked _ last same
  rw [same, List.mem_singleton.mp last] at checked
  exact absent (isChecked_iff.mpr checked)

def set (selection : Selection) (id : RecordId) (checked : Bool) : Selection :=
  if same : selection.isChecked id = checked then selection
  else if marks : checked = true then
    { selection with
      checked := selection.checked ++ [id]
      count := selection.count + if id ∈ selection.known then 1 else 0
      nodup := nodup_checked_append (marks ▸ same) }
  else
    { selection with
      checked := selection.checked.erase id
      count := selection.count - if id ∈ selection.known then 1 else 0
      nodup := selection.nodup.erase id }

def toggle (selection : Selection) (id : RecordId) : Selection :=
  selection.set id (!selection.isChecked id)

def setAll (selection : Selection) (checked : Bool) (ids : List RecordId) : Selection :=
  ids.foldl (fun selection id => selection.set id checked) selection

/-- The part of a list from one identifier to another, in either order and both
included; `none` when one of them is not in the list. -/
def between? (ids : List RecordId) (first second : RecordId) : Option (List RecordId) :=
  match ids.idxOf? first, ids.idxOf? second with
  | some left, some right => some ((Span.mk (min left right) (max left right + 1)).of ids)
  | _, _ => none

/-- Sets every identifier between two of a list. Nothing changes when one of
the two is not listed. -/
def setRange? (selection : Selection) (first second : RecordId) (checked : Bool)
    (ids : List RecordId) : Option Selection :=
  (between? ids first second).map (selection.setAll checked)

/-- Takes note of the content: what is not in it is dropped. -/
def validate (selection : Selection) (content : List RecordId) : Selection :=
  let checked := selection.checked.filter (· ∈ content)
  { checked
    known := content
    count := checked.length
    lastClicked := selection.lastClicked.filter (· ∈ content)
    nodup := List.Pairwise.filter _ selection.nodup }

def header (selection : Selection) (ids : List RecordId) : HeaderCheck :=
  if ids.any selection.isChecked then
    if ids.all selection.isChecked then .checked else .partly
  else .unchecked

/-- A click on the check box of a row. With `extend` and an earlier click to
extend from, all rows between the two take the new state of the clicked one. -/
def click (selection : Selection) (id : RecordId) (extend : Bool) (ids : List RecordId) :
    Selection :=
  let extended? : Option Selection :=
    if extend then
      selection.lastClicked.bind fun last =>
        selection.setRange? id last (!selection.isChecked id) ids
    else none
  { extended?.getD (selection.toggle id) with lastClicked := some id }

/-- A click on the header box: checks all rows when none is checked, and
unchecks them all otherwise. -/
def headerClick (selection : Selection) (ids : List RecordId) : Selection :=
  let anyChecked := ids.any selection.isChecked
  { selection with lastClicked := none }.setAll (!anyChecked) ids

end Selection

end PagedTable
