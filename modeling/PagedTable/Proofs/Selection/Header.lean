import PagedTable.Proofs.Selection.Count
import PagedTable.Proofs.Selection.Range

/-! # The header box

A click on the header box leaves all rows of the list in one state. Rows that it
checks are marked behind the ones that were checked before, and a second click takes
exactly these marks away again, with their count. -/

namespace PagedTable.Selection

/-! ## What the box shows -/

theorem header_eq_unchecked_iff {selection : Selection} {ids : List RecordId} :
    selection.header ids = .unchecked ↔ ∀ id ∈ ids, selection.isChecked id = false := by
  have noneChecked : ids.any selection.isChecked = false ↔
      ∀ id ∈ ids, selection.isChecked id = false := by
    simp only [List.any_eq_false, Bool.not_eq_true]
  rw [← noneChecked, header]
  cases ids.any selection.isChecked with
  | false => simp
  | true => cases ids.all selection.isChecked <;> simp

theorem header_eq_checked_iff {selection : Selection} {ids : List RecordId} :
    selection.header ids = .checked ↔
      ids ≠ [] ∧ ∀ id ∈ ids, selection.isChecked id = true := by
  have allChecked : ids.all selection.isChecked = true ↔
      ∀ id ∈ ids, selection.isChecked id = true := List.all_eq_true
  rw [← allChecked, header]
  cases ids with
  | nil => simp
  | cons id ids =>
      cases all : (id :: ids).all selection.isChecked with
      | false => cases (id :: ids).any selection.isChecked <;> simp
      | true =>
          have first : selection.isChecked id = true :=
            List.all_eq_true.mp all id List.mem_cons_self
          simp [first]

/-- Rows that are all in one state are shown in this state, if there are any. -/
theorem header_of_forall {selection : Selection} {ids : List RecordId} {checked : Bool}
    (same : ∀ id ∈ ids, selection.isChecked id = checked) :
    selection.header ids = if ids ≠ [] ∧ checked = true then .checked else .unchecked := by
  cases checked with
  | false => rw [header_eq_unchecked_iff.mpr same]; simp
  | true =>
      cases ids with
      | nil => rfl
      | cons id ids => exact header_eq_checked_iff.mpr ⟨List.cons_ne_nil _ _, same⟩

/-! ## A click on the box -/

theorem headerClick_eq (selection : Selection) (ids : List RecordId) :
    selection.headerClick ids =
      { selection with lastClicked := none }.setAll
        (selection.header ids = HeaderCheck.unchecked) ids := by
  have decision : (!ids.any selection.isChecked) = decide (selection.header ids = .unchecked) := by
    rw [header]
    cases ids.any selection.isChecked with
    | false => rfl
    | true => cases ids.all selection.isChecked <;> rfl
  rw [headerClick, decision]

theorem isChecked_headerClick (selection : Selection) (ids : List RecordId) (id : RecordId) :
    (selection.headerClick ids).isChecked id =
      if id ∈ ids then decide (selection.header ids = .unchecked) else selection.isChecked id := by
  rw [headerClick_eq, isChecked_setAll]
  rfl

theorem header_headerClick (selection : Selection) (ids : List RecordId) :
    (selection.headerClick ids).header ids =
      if ids ≠ [] ∧ selection.header ids = .unchecked then .checked else .unchecked := by
  have same : ∀ id ∈ ids, (selection.headerClick ids).isChecked id =
      decide (selection.header ids = .unchecked) := by
    intro id member
    rw [isChecked_headerClick, if_pos member]
  rw [header_of_forall same]
  simp only [decide_eq_true_eq]

/-! ## Marks that are taken away again -/

/-- Whether a selection is another one with further rows marked behind those that are
checked. -/
structure Marks (selection : Selection) (added : List RecordId) (marked : Selection) : Prop where
  checked : marked.checked = selection.checked ++ added
  known : marked.known = selection.known
  count : marked.count = selection.count + added.countP (· ∈ selection.known)
  lastClicked : marked.lastClicked = selection.lastClicked

namespace Marks

variable {selection marked further : Selection} {first second added : List RecordId}

theorem refl (selection : Selection) : selection.Marks [] selection :=
  ⟨(List.append_nil _).symm, rfl, rfl, rfl⟩

theorem eq_of_nil (marks : selection.Marks [] marked) : marked = selection :=
  Selection.ext (marks.checked.trans (List.append_nil _)) marks.known marks.count
    marks.lastClicked

theorem trans (before : selection.Marks first marked) (after : marked.Marks second further) :
    selection.Marks (first ++ second) further := by
  refine ⟨?_, after.known.trans before.known, ?_, after.lastClicked.trans before.lastClicked⟩
  · rw [after.checked, before.checked, List.append_assoc]
  · rw [after.count, before.count, before.known, List.countP_append, Nat.add_assoc]

theorem nodup_added (marks : selection.Marks added marked) : added.Nodup :=
  (marks.checked ▸ marked.nodup).of_append_right

/-- Unchecking a row that was not checked before takes its mark away. -/
theorem set_false (marks : selection.Marks added marked) {id : RecordId}
    (fresh : id ∉ selection.checked) : selection.Marks (added.erase id) (marked.set id false) := by
  have checked : marked.isChecked id = true ↔ id ∈ added := by
    rw [isChecked_iff, marks.checked, List.mem_append, or_iff_right fresh]
  unfold Selection.set
  split
  · next unmarked =>
    have absent : id ∉ added := by rw [← checked, unmarked]; exact Bool.false_ne_true
    rw [List.erase_of_not_mem absent]
    exact marks
  · next changes =>
    have member : id ∈ added := checked.mp (Bool.eq_true_of_not_eq_false changes)
    have counted := (List.perm_cons_erase member).countP_eq (· ∈ selection.known)
    rw [List.countP_cons] at counted
    refine ⟨?_, marks.known, ?_, marks.lastClicked⟩
    · change marked.checked.erase id = _
      rw [marks.checked, List.erase_append_right _ fresh]
    · change marked.count - (if id ∈ marked.known then 1 else 0) = _
      rw [marks.count, marks.known, counted]
      simp only [decide_eq_true_eq, ← Nat.add_assoc, Nat.add_sub_cancel]

/-- Marks go when their rows are unchecked, in whatever order and however often. -/
theorem setAll_false (marks : selection.Marks added marked) {ids : List RecordId}
    (fresh : ∀ id ∈ ids, id ∉ selection.checked) (within : added ⊆ ids) :
    marked.setAll false ids = selection := by
  -- the marks that are left belong to rows that are still to come
  induction ids generalizing added marked with
  | nil =>
      rw [List.subset_nil.mp within] at marks
      exact marks.eq_of_nil
  | cons head rest induction =>
      have parts := List.forall_mem_cons.mp fresh
      refine induction (marks.set_false parts.1) parts.2 ?_
      intro id member
      have others := marks.nodup_added.mem_erase_iff.mp member
      exact List.mem_of_ne_of_mem others.1 (within others.2)

end Marks

theorem marks_set_true {selection : Selection} {id : RecordId} (absent : id ∉ selection.checked) :
    selection.Marks [id] (selection.set id true) := by
  have changes := mt isChecked_iff.mp absent
  rw [set, dif_neg changes, dif_pos rfl]
  exact ⟨rfl, rfl, by simp [List.countP_singleton], rfl⟩

/-- Checking rows marks those that are not checked yet. -/
theorem exists_marks_setAll (selection : Selection) (ids : List RecordId) :
    ∃ added, selection.Marks added (selection.setAll true ids) ∧ added ⊆ ids := by
  induction ids generalizing selection with
  | nil => exact ⟨[], .refl selection, List.Subset.refl []⟩
  | cons head rest induction =>
      rcases induction (selection.set head true) with ⟨added, marks, within⟩
      by_cases checked : selection.isChecked head = true
      · have unchanged : selection.set head true = selection := set_of_same checked
        rw [unchanged] at marks
        refine ⟨added, ?_, List.subset_cons_of_subset head within⟩
        change selection.Marks added ((selection.set head true).setAll true rest)
        rw [unchanged]
        exact marks
      · have first := marks_set_true (mt isChecked_iff.mpr checked)
        exact ⟨head :: added, first.trans marks, List.cons_subset_cons head within⟩

theorem setAll_false_setAll_true {selection : Selection} {ids : List RecordId}
    (fresh : ∀ id ∈ ids, selection.isChecked id = false) :
    (selection.setAll true ids).setAll false ids = selection := by
  rcases selection.exists_marks_setAll ids with ⟨added, marks, within⟩
  refine marks.setAll_false ?_ within
  intro id member checked
  exact absurd (isChecked_iff.mpr checked) (by simp [fresh id member])

theorem headerClick_headerClick {selection : Selection} {ids : List RecordId}
    (unchecked : selection.header ids = .unchecked) :
    (selection.headerClick ids).headerClick ids = { selection with lastClicked := none } := by
  have first : selection.headerClick ids =
      { selection with lastClicked := none }.setAll true ids := by
    rw [headerClick_eq, unchecked]
    rfl
  cases ids with
  | nil => rw [first]; rfl
  | cons id rest =>
      have shown : (selection.headerClick (id :: rest)).header (id :: rest) = .checked := by
        rw [header_headerClick, if_pos ⟨List.cons_ne_nil _ _, unchecked⟩]
      rw [headerClick_eq, shown, first, ← setAll_withLastClicked]
      exact setAll_false_setAll_true (header_eq_unchecked_iff.mp unchecked)

structure Toggles (selection : Selection) (ids : List RecordId) (clicked : Selection) : Prop where
  uniform : clicked.header ids ≠ .partly
  checks : clicked.header ids = .checked ↔ ids ≠ [] ∧ selection.header ids = .unchecked
  others : ∀ id, id ∉ ids → clicked.isChecked id = selection.isChecked id
  back : selection.header ids = .unchecked →
    clicked.headerClick ids = { selection with lastClicked := none }

/-- After a click the box never shows a mixture; it shows that all rows are checked
where there are rows and none of them was. Other rows stay as they are, and a second
click takes back one that checked rows. -/
theorem header_toggles_cleanly (selection : Selection) (ids : List RecordId) :
    selection.Toggles ids (selection.headerClick ids) := by
  let clicked := selection.headerClick ids
  have shown : clicked.header ids =
      if ids ≠ [] ∧ selection.header ids = .unchecked then .checked else .unchecked :=
    selection.header_headerClick ids
  refine ⟨?_, ?_, ?_, headerClick_headerClick⟩
  · rw [shown]
    split <;> simp
  · rw [shown]
    split
    case isTrue fresh => exact iff_of_true rfl fresh
    case isFalse other => exact iff_of_false HeaderCheck.noConfusion other
  · intro id outside
    rw [isChecked_headerClick, if_neg outside]

/-- Rows that are named twice, and one that the content does not have, beside a row
that is checked throughout. -/
theorem header_toggles_cleanly_with_unknown_rows :
    let selection : Selection :=
      { checked := [.number 1]
        known := [.number 1, .number 2, .number 3]
        count := 1
        lastClicked := some (.number 1) }
    let ids : List RecordId := [.number 3, .number 9, .number 3, .number 2]
    let clicked := selection.headerClick ids
    selection.header ids = .unchecked ∧ clicked.header ids = .checked ∧
      clicked.checked = [.number 1, .number 3, .number 9, .number 2] ∧ clicked.count = 3 ∧
      RecordId.number 1 ∉ ids ∧
      clicked.isChecked (.number 1) = selection.isChecked (.number 1) ∧
      clicked.headerClick ids = { selection with lastClicked := none } := by
  intro selection ids clicked
  have unchecked : selection.header ids = .unchecked := by decide
  have outside : RecordId.number 1 ∉ ids := by decide
  have toggles := selection.header_toggles_cleanly ids
  exact ⟨unchecked, toggles.checks.mpr ⟨List.cons_ne_nil _ _, unchecked⟩, by decide, by decide,
    outside, toggles.others _ outside, toggles.back unchecked⟩

end PagedTable.Selection
