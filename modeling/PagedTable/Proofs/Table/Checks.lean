import PagedTable.Proofs.Table.Operation

/-! # Checks that last

A row stays checked until it is unchecked or leaves the content, whether it is on
display meanwhile or not. No other row is ever checked without being asked for. -/

namespace PagedTable.Table

structure SelectsContent (table : Table) : Prop where
  validated : table.selection.validate table.contentIds = table.selection

namespace SelectsContent

variable {table : Table}

theorem mem_contentIds (selects : table.SelectsContent) {id : RecordId}
    (checked : id ∈ table.selection.checked) : id ∈ table.contentIds := by
  rw [← selects.validated, Selection.mem_checked_validate] at checked
  exact checked.2

theorem count_eq (selects : table.SelectsContent) :
    table.selection.count = table.selection.checked.length := by
  rw [← selects.validated]
  rfl

theorem lastClicked_mem (selects : table.SelectsContent) {id : RecordId}
    (clicked : id ∈ table.selection.lastClicked) : id ∈ table.contentIds := by
  rw [← selects.validated] at clicked
  exact of_decide_eq_true (Option.filter_eq_some_iff.mp clicked).2

end SelectsContent

theorem selectsContent_refresh (table : Table) : table.refresh.SelectsContent := by
  constructor
  rw [refresh_contentIds, refresh_selection, Selection.validate_validate]

/-! ## One operation -/

theorem Effect.selectsContent {table after : Table} {operation : Operation}
    (effect : Effect table operation after) (selects : table.SelectsContent) :
    after.SelectsContent := by
  cases effect with
  | refreshed changed notices => exact ⟨changed.selectsContent_refresh.validated⟩
  | touched => exact ⟨selects.validated⟩
  | deferred => exact ⟨selects.validated⟩
  | started => exact ⟨selects.validated⟩
  | cancelled => exact selectsContent_refresh _
  | dropped => exact selectsContent_refresh _

theorem refresh_selection_eq (table : Table) :
    table.refresh.selection = table.selection.validate table.refresh.contentIds := by
  rw [refresh_selection, refresh_contentIds]

/-- Where no check is asked for, the selection only loses what has left the
content. -/
theorem Effect.selection_eq {table after : Table} {operation : Operation}
    (effect : Effect table operation after) (selects : table.SelectsContent)
    (unasked : operation.checks table = false) :
    after.selection = table.selection.validate after.contentIds := by
  cases effect with
  | refreshed changed notices changes =>
      rcases changes.selection with kept | asked
      · rw [← kept]
        exact changed.refresh_selection_eq
      · rw [unasked] at asked
        cases asked
  | touched => exact selects.validated.symm
  | deferred => exact selects.validated.symm
  | started => exact selects.validated.symm
  | cancelled => exact refresh_selection_eq _
  | dropped => exact refresh_selection_eq _

theorem SelectsContent.perform {table : Table} (selects : table.SelectsContent)
    (operation : Operation) : (table.perform operation).2.SelectsContent :=
  (table.perform_effect operation).selectsContent selects

theorem SelectsContent.checked_perform {table : Table} (selects : table.SelectsContent)
    {operation : Operation} (unasked : operation.checks table = false) :
    (table.perform operation).2.selection.checked =
      table.selection.checked.filter (· ∈ (table.perform operation).2.contentIds) :=
  congrArg Selection.checked ((table.perform_effect operation).selection_eq selects unasked)

/-! ## Runs -/

theorem SelectsContent.run {table : Table} (selects : table.SelectsContent)
    (operations : List Operation) : (table.run operations).SelectsContent :=
  run_keeps SelectsContent selects operations fun _ still operation _ => still.perform operation

theorem selectsContent_run_new (options : TableOptions) (hooks : Hooks)
    (operations : List Operation) : (run { options, hooks } operations).SelectsContent := by
  have empty : SelectsContent { options, hooks } := ⟨rfl⟩
  exact empty.run operations

def checksNothing (table : Table) : List Operation → Bool
  | [] => true
  | operation :: operations =>
    !operation.checks table && (table.perform operation).2.checksNothing operations

theorem SelectsContent.mem_checked_run_iff {table : Table} (selects : table.SelectsContent)
    {operations : List Operation} (unasked : table.checksNothing operations = true)
    {id : RecordId} :
    id ∈ (table.run operations).selection.checked ↔
      id ∈ table.selection.checked ∧
        ∀ first, first <+: operations → id ∈ (table.run first).contentIds := by
  induction operations generalizing table with
  | nil =>
      simp only [List.prefix_nil, forall_eq]
      exact ⟨fun checked => ⟨checked, selects.mem_contentIds checked⟩, And.left⟩
  | cons operation operations induction =>
      simp only [checksNothing, Bool.and_eq_true, Bool.not_eq_true'] at unasked
      rw [run_cons, induction (selects.perform operation) unasked.2,
        selects.checked_perform unasked.1, List.mem_filter, decide_eq_true_iff, and_assoc]
      apply and_congr_right
      intro checked
      simp only [List.prefix_cons_iff]
      constructor
      · rintro ⟨_, later⟩ _ (rfl | ⟨first, rfl, initial⟩)
        · exact selects.mem_contentIds checked
        · exact later first initial
      · intro always
        have later := fun first initial => always _ (Or.inr ⟨first, rfl, initial⟩)
        exact ⟨later [] (List.nil_prefix), later⟩

structure KeepsChecks (table : Table) : Prop where
  content : ∀ id ∈ table.selection.checked, id ∈ table.contentIds
  nodup : table.selection.checked.Nodup
  count : table.selection.count = table.selection.checked.length
  lastClicked : ∀ id ∈ table.selection.lastClicked, id ∈ table.contentIds
  perform : ∀ operation : Operation, operation.checks table = false →
    let after := (table.perform operation).2
    after.selection.checked = table.selection.checked.filter (· ∈ after.contentIds)
  run : ∀ further : List Operation, table.checksNothing further = true → ∀ id,
    (id ∈ (table.run further).selection.checked ↔
      id ∈ table.selection.checked ∧
        ∀ first, first <+: further → id ∈ (table.run first).contentIds)

/-- The selection holds nothing but the content, has counted it, and remembers no
other row. All but the operations that are there to check rows only drop from it
what they drop from the content. -/
theorem checks_last_until_removed (options : TableOptions) (hooks : Hooks)
    (operations : List Operation) :
    (Table.run { options, hooks } operations).KeepsChecks := by
  let table := Table.run { options, hooks } operations
  have selects : table.SelectsContent := selectsContent_run_new options hooks operations
  refine ⟨?_, table.selection.nodup, selects.count_eq, ?_, ?_, ?_⟩
  · intro id checked
    exact selects.mem_contentIds checked
  · intro id clicked
    exact selects.lastClicked_mem clicked
  · intro operation unasked
    exact selects.checked_perform unasked
  · intro further unasked id
    exact selects.mem_checked_run_iff unasked

/-- Two checked rows that the filter hides, and content without one of them that
waits for the end of a drag. -/
def hiddenChecks : List Operation :=
  let record (number : Int) : Record :=
    { id := .number number, contents := .text (toString number) }
  [.update [record 1, record 2, record 3, record 4],
    .check (.number 2) true,
    .check (.number 4) true,
    .applyFilter "3",
    .pointerDown 0 (some (.number 3)) 0,
    .pointerMove 0 4 [⟨.number 3, 0, 2⟩],
    .update [record 4, record 3]]

theorem checks_last_until_removed_while_hidden :
    let table := run { options := { selectAnywhere := true } } hiddenChecks
    let after := (table.perform (.pointerUp 0 false)).2
    let further : List Operation := [.pointerUp 0 false, .clearFilter]
    table.selection.checked = [.number 2, .number 4] ∧ table.pageIds = [.number 3] ∧
      Operation.checks table (.pointerUp 0 false) = false ∧
      after.selection.checked = [.number 4] ∧
      table.checksNothing further = true ∧
      .number 2 ∉ (table.run further).selection.checked := by
  intro table after further
  have checked : table.selection.checked = [.number 2, .number 4] := by decide +kernel
  have unasked : Operation.checks table (.pointerUp 0 false) = false := by decide +kernel
  have quiet : table.checksNothing further = true := by decide +kernel
  have keeps : table.KeepsChecks :=
    checks_last_until_removed { selectAnywhere := true } {} hiddenChecks
  have left : after.contentIds = [.number 4, .number 3] := by decide +kernel
  refine ⟨checked, by decide +kernel, unasked, ?_, quiet, ?_⟩
  · rw [keeps.perform (.pointerUp 0 false) unasked, checked, left]
    decide
  · intro still
    have listed := ((keeps.run further quiet _).mp still).2 further (List.prefix_refl further)
    revert listed
    decide +kernel

end PagedTable.Table
