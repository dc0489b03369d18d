import Mathlib.Data.List.DropRight
import PagedTable.Proofs.Table.Checks

/-! # What a drag moves

A drag moves the row that the pointer went down on, alone or along with all other
checked rows. These are rows of the content, in content order, unless content that
came between the press and the drag left that row out, which is then moved alone. -/

namespace PagedTable.Table

/-! ## The last press -/

def Operation.pressed? : Operation → Option (Option RecordId)
  | .pointerDown _ row _ => some row
  | _ => none

def pressedRow? (operations : List Operation) : Option RecordId :=
  (operations.filterMap Operation.pressed?).getLast?.join

def sincePress (operations : List Operation) : List Operation :=
  operations.rtakeWhile (·.pressed?.isNone)

section

variable {operations : List Operation} {operation : Operation}

theorem pressedRow?_of_press {row : Option RecordId} (press : operation.pressed? = some row) :
    pressedRow? (operations ++ [operation]) = row := by
  rw [pressedRow?, getLast?_filterMap_concat operations press, Option.join_some]

theorem pressedRow?_of_other (other : operation.pressed? = none) :
    pressedRow? (operations ++ [operation]) = pressedRow? operations := by
  rw [pressedRow?, getLast?_filterMap_concat_none operations other, pressedRow?]

theorem sincePress_of_other (other : operation.pressed? = none) :
    sincePress (operations ++ [operation]) = sincePress operations ++ [operation] :=
  List.rtakeWhile_concat_pos _ _ _ (by simp [other])

end

/-- Whether the last press was on a row, which is there if no update since left it
out. -/
structure Presses (operations : List Operation) (table : Table) (row : RecordId) : Prop where
  pressed : pressedRow? operations = some row
  present : (∀ operation ∈ sincePress operations, ∀ records ∈ operation.update?,
    row ∈ records.map Record.id) → row ∈ table.contentIds

theorem Presses.step {operations : List Operation} {operation : Operation} {table after : Table}
    {row : RecordId} (presses : Presses operations table row) (other : operation.pressed? = none)
    (content : after.contentIds = table.contentIds ∨
      ∃ records ∈ operation.update?, after.contentIds = records.map Record.id) :
    Presses (operations ++ [operation]) after row := by
  refine ⟨(pressedRow?_of_other other).trans presses.pressed, ?_⟩
  rw [sincePress_of_other other]
  intro listed
  rcases content with same | ⟨records, update, replaced⟩
  · rw [same]
    apply presses.present
    intro earlier member
    exact listed earlier (List.mem_append_left _ member)
  · rw [replaced]
    exact listed operation (List.mem_append_right _ (List.mem_singleton_self _)) records update

/-! ## Rows that are moved -/

/-- Whether some rows are what a drag may move that started on a row, in content
with these identifiers. -/
structure Moves (ids : List RecordId) (row : RecordId) (moving : List RecordId) : Prop where
  mem : row ∈ moving
  nodup : ids.Nodup → moving.Nodup
  sublist : row ∈ ids → moving.Sublist ids
  alone : row ∉ ids → moving = [row]

theorem SelectsContent.moves {table : Table} (selects : table.SelectsContent) (row : RecordId) :
    Moves table.contentIds row (Gesture.movingFrom row table.selection table.contentIds) := by
  have known : table.selection.isChecked row = true → row ∈ table.contentIds :=
    fun checked => selects.mem_contentIds (Selection.isChecked_iff.mp checked)
  refine ⟨Gesture.mem_movingFrom known, Gesture.nodup_movingFrom, Gesture.movingFrom_sublist, ?_⟩
  intro missing
  exact Gesture.movingFrom_of_unchecked (Bool.eq_false_iff.mpr (mt known missing))

/-! ## Gestures and the press they come from -/

structure ComesFromPress (operations : List Operation) (table : Table) : Prop where
  armed : ∀ press ∈ table.gesture.press?, Presses operations table press.row
  dragging : ∀ grip ∈ table.grip?, ∃ row,
    Presses operations table row ∧ Moves table.contentIds row grip.moving

namespace ComesFromPress

variable {operations : List Operation} {operation : Operation} {table after : Table}

theorem of_idle (idle : after.gesture = .idle) : ComesFromPress operations after := by
  constructor
  · intro press pressed
    rw [idle] at pressed
    cases pressed
  · intro grip held
    rw [grip?, idle] at held
    cases held

theorem of_press (operations : List Operation) (table : Table) (pointer : Nat)
    (row : Option RecordId) (line : Int) :
    ComesFromPress (operations ++ [.pointerDown pointer row line])
      (table.pointerDown pointer row line) := by
  cases dragging : table.isDragging with
  | true =>
      rw [pointerDown_of_dragging dragging]
      exact of_idle (refresh_gesture _)
  | false =>
      rcases pointerDown_of_idle dragging pointer row line with ⟨gesture, idle, armed, equal⟩
      rw [equal]
      constructor
      · intro press pressed
        rcases armed press pressed with ⟨-, rfl, -, shown⟩
        exact ⟨pressedRow?_of_press rfl, fun _ => table.pageIds_subset shown⟩
      · intro grip held
        rw [grip?, Gesture.grip?_of_isDragging_eq_false idle] at held
        cases held

/-- What only passes the gesture on keeps the press. -/
theorem carry (comes : ComesFromPress operations table) (other : operation.pressed? = none)
    (press : ∀ press ∈ after.gesture.press?, table.gesture.press? = some press)
    (grip : after.grip? = table.grip?)
    (content : after.contentIds = table.contentIds ∨
      ∃ records ∈ operation.update?, after.contentIds = records.map Record.id)
    (held : table.isDragging = true → after.contentIds = table.contentIds) :
    ComesFromPress (operations ++ [operation]) after := by
  constructor
  · intro pressed member
    exact (comes.armed pressed (press pressed member)).step other content
  · intro holding member
    have known : table.grip? = some holding := grip.symm.trans member
    rcases comes.dragging holding known with ⟨row, presses, moves⟩
    have same := held (by rw [isDragging_eq_isSome_grip?, known]; rfl)
    refine ⟨row, presses.step other (Or.inl same), ?_⟩
    rw [same]
    exact moves

theorem of_effect (comes : ComesFromPress operations table) (selects : table.SelectsContent)
    (other : operation.pressed? = none) (effect : Effect table operation after) :
    ComesFromPress (operations ++ [operation]) after := by
  cases effect with
  | refreshed changed notices changes =>
      have sameIds : (changed.refresh.note notices).contentIds = changed.contentIds :=
        changed.refresh_contentIds
      have sameGesture : (changed.refresh.note notices).gesture = changed.gesture :=
        changed.refresh_gesture
      refine comes.carry other ?_ ((grip?_refresh changed).trans changes.grip) ?_ ?_
      · rw [sameGesture]
        exact changes.press
      · rw [sameIds]
        exact changes.content.imp (fun kept => contentIds_eq_of_forget kept.2)
          fun applied => ⟨_, applied.1, rfl⟩
      · -- content is not replaced while a drag holds on to its rows
        intro dragging
        rcases changes.content with ⟨_, same⟩ | ⟨_, idle⟩
        · exact sameIds.trans (contentIds_eq_of_forget same)
        · rw [dragging] at idle
          cases idle
  | touched gesture grip noUpdate press =>
      refine comes.carry other ?_ grip (Or.inl rfl) fun _ => rfl
      intro pressed member
      rcases press pressed member with kept | ⟨rfl, _⟩
      · exact kept
      · cases other
  | deferred => exact comes.carry other (fun _ member => member) rfl (Or.inl rfl) fun _ => rfl
  | started row pointer line armed gesture grip noUpdate =>
      have pressed : table.gesture.press? = some ⟨row, pointer, line⟩ := by rw [armed]; rfl
      have dragging : gesture.isDragging = true := by
        rw [gesture.isDragging_eq_isSome_grip?, grip]
        rfl
      constructor
      · intro press member
        cases (Gesture.press?_of_isDragging dragging).symm.trans member
      · intro held member
        cases grip.symm.trans member
        exact ⟨row, (comes.armed _ pressed).step other (Or.inl rfl), selects.moves row⟩
  | cancelled => exact of_idle (refresh_gesture _)
  | dropped => exact of_idle (refresh_gesture _)

theorem perform (comes : ComesFromPress operations table) (selects : table.SelectsContent)
    (operation : Operation) :
    ComesFromPress (operations ++ [operation]) (table.perform operation).2 := by
  cases pressed : operation.pressed? with
  | none => exact comes.of_effect selects pressed (table.perform_effect operation)
  | some row =>
      cases operation with
      | pointerDown pointer row line => exact of_press operations table pointer row line
      | _ => cases pressed

theorem run (comes : ComesFromPress operations table) (selects : table.SelectsContent)
    (further : List Operation) : ComesFromPress (operations ++ further) (table.run further) := by
  induction further generalizing operations table with
  | nil =>
      rw [List.append_nil]
      exact comes
  | cons operation further induction =>
      rw [List.append_cons]
      exact induction (comes.perform selects operation) (selects.perform operation)

end ComesFromPress

/-- What a drag moves includes the row that the pointer went down on. As long as
that row is in the content, the drag moves rows of the content in their order, and
it is there unless an update since the press has left it out. Then it is moved
alone. -/
theorem drag_moves_what_is_there (options : TableOptions) (hooks : Hooks)
    (operations : List Operation) :
    let table := run { options, hooks } operations
    ∀ drag : Drag, table.gesture = .dragging drag →
      drag.moving ≠ [] ∧
        ∃ row, Presses operations table row ∧ Moves table.contentIds row drag.moving := by
  intro table drag held
  have selects : SelectsContent { options, hooks } := selectsContent_run_new options hooks []
  have new : ComesFromPress [] { options, hooks } := .of_idle rfl
  have comes : ComesFromPress operations table := new.run selects operations
  have grip : table.grip? = some ⟨drag.moving, drag.pointer⟩ := congrArg Gesture.grip? held
  rcases comes.dragging _ grip with ⟨row, presses, moves⟩
  exact ⟨List.ne_nil_of_mem moves.mem, row, presses, moves⟩

/-- Two updates come after the press, one before the drag begins and one during it. -/
theorem drag_moves_what_is_there_after_updates :
    let record (number : Int) : Record := { id := .number number, contents := .text "" }
    let operations : List Operation :=
      [.update [record 1, record 2, record 3, record 4],
        .check (.number 2) true,
        .check (.number 4) true,
        .pointerDown 7 (some (.number 2)) 0,
        .update [record 4, record 5, record 2, record 3],
        .pointerMove 7 5 [⟨.number 3, 4, 2⟩],
        .update [record 2]]
    let table := run {} operations
    let drag : Drag := ⟨[.number 4, .number 2], some ⟨.number 3, .after⟩, 7, 5, none⟩
    table.gesture = .dragging drag ∧ pressedRow? operations = some (.number 2) ∧
      .number 2 ∈ drag.moving ∧ .number 2 ∈ table.contentIds ∧ drag.moving.Nodup ∧
      drag.moving.Sublist table.contentIds := by
  intro record operations table drag
  have held : table.gesture = .dragging drag := by decide +kernel
  have pressed : pressedRow? operations = some (.number 2) := by decide +kernel
  rcases drag_moves_what_is_there {} {} operations drag held with ⟨_, row, presses, moves⟩
  cases pressed.symm.trans presses.pressed
  have listed := presses.present (by decide +kernel)
  exact ⟨held, pressed, moves.mem, listed, moves.nodup (by decide +kernel),
    moves.sublist listed⟩

/-- The row that the pointer went down on is gone before the drag begins. -/
theorem drag_moves_row_left_out :
    let record (number : Int) : Record := { id := .number number, contents := .text "" }
    let table := run {}
      [.update [record 1, record 2],
        .pointerDown 0 (some (.number 1)) 1,
        .update [record 2],
        .pointerMove 0 4 [⟨.number 2, 0, 2⟩]]
    table.gesture = .dragging ⟨[.number 1], some ⟨.number 2, .after⟩, 0, 4, none⟩ ∧
      table.contentIds = [.number 2] := by
  decide +kernel

end PagedTable.Table
