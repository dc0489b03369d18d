import Mathlib.Data.Finset.Card
import Mathlib.Data.List.Induction
import PagedTable.Proofs.Selection

/-! # What is counted

The number of checked rows is kept step by step, while rows that the content does not
have may be checked and unchecked as well. It stays that of the checked rows that were
in the content when it was last looked at, and so it is never taken below zero. -/

namespace PagedTable.Selection

inductive Operation where
  | set (id : RecordId) (checked : Bool)
  | toggle (id : RecordId)
  | setRange (first second : RecordId) (checked : Bool) (ids : List RecordId)
  | setAll (checked : Bool) (ids : List RecordId)
  | click (id : RecordId) (extend : Bool) (ids : List RecordId)
  | headerClick (ids : List RecordId)
  | validate (content : List RecordId)

def perform (selection : Selection) : Operation → Selection
  | .set id checked => selection.set id checked
  | .toggle id => selection.toggle id
  | .setRange first second checked ids =>
    (selection.setRange? first second checked ids).getD selection
  | .setAll checked ids => selection.setAll checked ids
  | .click id extend ids => selection.click id extend ids
  | .headerClick ids => selection.headerClick ids
  | .validate content => selection.validate content

def run (operations : List Operation) : Selection :=
  operations.foldl perform {}

theorem run_concat (operations : List Operation) (operation : Operation) :
    run (operations ++ [operation]) = (run operations).perform operation :=
  List.foldl_concat _ _ _ _

/-! ## The content as it was last looked at -/

def Operation.content? : Operation → Option (List RecordId)
  | .validate content => some content
  | _ => none

theorem Operation.eq_validate {operation : Operation} {content : List RecordId}
    (looks : operation.content? = some content) : operation = .validate content := by
  cases operation with
  | validate other => exact congrArg validate (Option.some.inj looks)
  | _ => cases looks

def lastContent (operations : List Operation) : List RecordId :=
  (operations.filterMap Operation.content?).getLast?.getD []

theorem lastContent_concat (operations : List Operation) (operation : Operation) :
    lastContent (operations ++ [operation]) = operation.content?.getD (lastContent operations) := by
  unfold lastContent
  cases known : operation.content? with
  | none => simp [known]
  | some content => simp [known]

/-! ## Passes -/

structure Pass where
  checked : Bool
  ids : List RecordId
deriving DecidableEq, Repr

def pass (selection : Selection) : Operation → Pass
  | .set id checked => ⟨checked, [id]⟩
  | .toggle id => ⟨!selection.isChecked id, [id]⟩
  | .setRange first second checked ids => ⟨checked, (between? ids first second).getD []⟩
  | .setAll checked ids => ⟨checked, ids⟩
  | .click id extend ids => ⟨!selection.isChecked id, selection.reach id extend ids⟩
  | .headerClick ids => ⟨!ids.any selection.isChecked, ids⟩
  | .validate _ => ⟨false, []⟩

theorem set_withLastClicked (selection : Selection) (last : Option RecordId) (id : RecordId)
    (checked : Bool) :
    { selection with lastClicked := last }.set id checked =
      { selection.set id checked with lastClicked := last } := by
  by_cases same : selection.isChecked id = checked
  · rw [set_of_same same]
    exact set_of_same same
  · have changes : ¬{ selection with lastClicked := last }.isChecked id = checked := same
    unfold set
    rw [dif_neg changes, dif_neg same]
    cases checked <;> rfl

theorem setAll_withLastClicked (selection : Selection) (last : Option RecordId) (checked : Bool)
    (ids : List RecordId) :
    { selection with lastClicked := last }.setAll checked ids =
      { selection.setAll checked ids with lastClicked := last } := by
  induction ids generalizing selection with
  | nil => rfl
  | cons id ids induction =>
      change ({ selection with lastClicked := last }.set id checked).setAll checked ids = _
      rw [set_withLastClicked, induction]
      rfl

/-- Every operation but a look at the content is one pass over rows. -/
theorem perform_eq_pass (selection : Selection) {operation : Operation}
    (marks : operation.content? = none) :
    selection.perform operation =
      { selection.setAll (selection.pass operation).checked (selection.pass operation).ids with
        lastClicked := (selection.perform operation).lastClicked } := by
  cases operation with
  | set id checked => rfl
  | toggle id => rfl
  | setRange first second checked ids =>
      cases found : between? ids first second with
      | none => simp only [perform, setRange?, pass, found]; rfl
      | some part => simp only [perform, setRange?, pass, found]; rfl
  | setAll checked ids => rfl
  | click id extend ids =>
      simp only [perform, click_eq, pass]
  | headerClick ids =>
      simp only [perform, headerClick, setAll_withLastClicked, pass]
  | validate content => cases marks

theorem known_set (selection : Selection) (id : RecordId) (checked : Bool) :
    (selection.set id checked).known = selection.known := by
  unfold set
  split
  · rfl
  · cases checked <;> rfl

theorem known_setAll (selection : Selection) (checked : Bool) (ids : List RecordId) :
    (selection.setAll checked ids).known = selection.known := by
  induction ids generalizing selection with
  | nil => rfl
  | cons id ids induction => exact (induction _).trans (known_set selection id checked)

theorem known_perform (selection : Selection) (operation : Operation) :
    (selection.perform operation).known = operation.content?.getD selection.known := by
  cases marks : operation.content? with
  | none =>
      rw [perform_eq_pass selection marks]
      exact known_setAll _ _ _
  | some content =>
      rw [Operation.eq_validate marks]
      rfl

theorem known_run (operations : List Operation) :
    (run operations).known = lastContent operations := by
  induction operations using List.reverseRecOn with
  | nil => rfl
  | append_singleton operations operation induction =>
      rw [run_concat, known_perform, induction, lastContent_concat]

/-! ## Keeping count -/

/-- Whether the number of checked rows is that of the known ones, each counted once. -/
def IsCounted (selection : Selection) : Prop :=
  selection.count = selection.checked.countP (· ∈ selection.known)

namespace IsCounted

variable {selection : Selection}

theorem count_pos (counted : selection.IsCounted) {id : RecordId}
    (checked : selection.isChecked id = true) (known : id ∈ selection.known) :
    0 < selection.count := by
  rw [counted, List.countP_pos_iff]
  exact ⟨id, isChecked_iff.mp checked, decide_eq_true known⟩

theorem set (counted : selection.IsCounted) (id : RecordId) (checked : Bool) :
    (selection.set id checked).IsCounted := by
  unfold IsCounted at counted ⊢
  unfold Selection.set
  split
  · exact counted
  · next changes =>
    cases checked with
    | true => simp [counted, List.countP_append, List.countP_singleton]
    | false =>
        have member : id ∈ selection.checked := by simpa [isChecked] using changes
        simp [counted, List.countP_erase, member]

theorem setAll (counted : selection.IsCounted) (checked : Bool) (ids : List RecordId) :
    (selection.setAll checked ids).IsCounted := by
  induction ids generalizing selection with
  | nil => exact counted
  | cons id ids induction => exact induction (counted.set id checked)

theorem validate (selection : Selection) (content : List RecordId) :
    (selection.validate content).IsCounted := by
  apply (List.countP_eq_length.mpr _).symm
  intro id member
  exact decide_eq_true (mem_checked_validate.mp member).2

theorem perform (counted : selection.IsCounted) (operation : Operation) :
    (selection.perform operation).IsCounted := by
  cases marks : operation.content? with
  | none =>
      have passed := counted.setAll (selection.pass operation).checked
        (selection.pass operation).ids
      rw [perform_eq_pass selection marks]
      exact passed
  | some content =>
      rw [Operation.eq_validate marks]
      exact validate selection content

theorem run (operations : List Operation) : (run operations).IsCounted := by
  induction operations using List.reverseRecOn with
  | nil => rfl
  | append_singleton operations operation induction =>
      rw [run_concat]
      exact induction.perform operation

theorem count_eq_card (counted : selection.IsCounted) :
    selection.count =
      (selection.known.toFinset.filter fun id => selection.isChecked id = true).card := by
  have same : selection.known.toFinset.filter (fun id => selection.isChecked id = true) =
      (selection.checked.filter (· ∈ selection.known)).toFinset := by
    ext id
    simp [isChecked_iff, and_comm]
  rw [same, List.toFinset_card_of_nodup (selection.nodup.filter _), counted,
    List.countP_eq_length_filter]

end IsCounted

/-- Whatever is done to a selection, it has counted the checked rows among those of
the last content, and counts down only from above zero. -/
theorem count_never_off (operations : List Operation) :
    let selection := run operations
    selection.count =
      ((lastContent operations).toFinset.filter fun id => selection.isChecked id = true).card ∧
    ∀ operation : Operation,
      let pass := selection.pass operation
      (operation.content? = none →
        selection.perform operation =
          { selection.setAll pass.checked pass.ids with
            lastClicked := (selection.perform operation).lastClicked }) ∧
      ∀ front id back, pass.checked = false → pass.ids = front ++ id :: back →
        let before := selection.setAll false front
        before.isChecked id = true → id ∈ before.known → 0 < before.count := by
  intro selection
  have counted : selection.IsCounted := .run operations
  refine ⟨?_, ?_⟩
  · rw [← known_run]
    exact counted.count_eq_card
  · intro operation pass
    refine ⟨selection.perform_eq_pass, ?_⟩
    intro front id back unchecks split before checked known
    exact (counted.setAll false front).count_pos checked known

/-- A row that the content does not have is checked and unchecked, rows are named more
than once, and the last known row is unchecked by a click on the header box. -/
theorem count_never_off_with_unknown_rows :
    let operations : List Operation :=
      [.validate [.number 1, .number 2, .number 2, .number 3],
        .set (.number 9) true,
        .setAll true [.number 2, .number 9, .number 1, .number 2],
        .click (.number 9) false [.number 1, .number 2]]
    let selection := run operations
    let front : List RecordId := [.number 9, .number 2, .number 9]
    let before := selection.setAll false front
    selection.checked = [.number 2, .number 1] ∧
      selection.count =
        ((lastContent operations).toFinset.filter fun id => selection.isChecked id = true).card ∧
      selection.pass (.headerClick (front ++ [.number 1])) = ⟨false, front ++ [.number 1]⟩ ∧
      before.isChecked (.number 1) = true ∧ .number 1 ∈ before.known ∧ 0 < before.count := by
  intro operations selection front before
  have passes : selection.pass (.headerClick (front ++ [.number 1])) =
      ⟨false, front ++ [.number 1]⟩ := by decide
  have checked : before.isChecked (.number 1) = true := by decide
  have known : .number 1 ∈ before.known := by decide
  rcases count_never_off operations with ⟨counts, descends⟩
  have positive := (descends (.headerClick (front ++ [.number 1]))).2 front (.number 1) []
    (by rw [passes]) (by rw [passes]) checked known
  exact ⟨by decide, counts, passes, checked, known, positive⟩

end PagedTable.Selection
