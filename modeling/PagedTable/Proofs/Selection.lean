import Mathlib.Data.List.Nodup
import PagedTable.Selection

/-! # What a selection holds

A click checks or unchecks some rows, one after the other. Taking note of the
content drops what is not in it, and does so once and for all. -/

namespace PagedTable.Selection

attribute [ext] Selection

theorem set_of_same {selection : Selection} {id : RecordId} {checked : Bool}
    (same : selection.isChecked id = checked) : selection.set id checked = selection :=
  dif_pos same

/-! ## Clicks -/

def reach (selection : Selection) (id : RecordId) (extend : Bool) (ids : List RecordId) :
    List RecordId :=
  (if extend then selection.lastClicked.bind (between? ids id) else none).getD [id]

/-- A click is one pass over the rows it reaches. -/
theorem click_eq (selection : Selection) (id : RecordId) (extend : Bool) (ids : List RecordId) :
    selection.click id extend ids =
      { selection.setAll (!selection.isChecked id) (selection.reach id extend ids) with
        lastClicked := some id } := by
  have marks :
      (if extend then
        selection.lastClicked.bind fun last =>
          selection.setRange? id last (!selection.isChecked id) ids
      else none).getD (selection.toggle id) =
        selection.setAll (!selection.isChecked id) (selection.reach id extend ids) := by
    unfold reach
    cases extend with
    | false => rfl
    | true =>
        cases selection.lastClicked with
        | none => rfl
        | some last =>
            simp only [if_true, Option.bind_some, setRange?]
            cases between? ids id last with
            | none => rfl
            | some part => rfl
  exact congrArg (fun marked : Selection => { marked with lastClicked := some id }) marks

/-! ## Taking note of the content -/

theorem mem_checked_validate {selection : Selection} {content : List RecordId} {id : RecordId} :
    id ∈ (selection.validate content).checked ↔ id ∈ selection.checked ∧ id ∈ content := by
  simp [validate]

theorem validate_validate (selection : Selection) (content : List RecordId) :
    (selection.validate content).validate content = selection.validate content := by
  have checked : (selection.checked.filter (· ∈ content)).filter (· ∈ content) =
      selection.checked.filter (· ∈ content) := by
    rw [List.filter_filter]
    exact List.filter_congr fun id _ => Bool.and_self _
  have lastClicked : (selection.lastClicked.filter (· ∈ content)).filter (· ∈ content) =
      selection.lastClicked.filter (· ∈ content) := by
    rw [Option.filter_filter]
    congr 1
    funext id
    exact Bool.and_self _
  simp only [validate, checked, lastClicked]

end PagedTable.Selection
