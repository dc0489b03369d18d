import PagedTable.Table.Operation
import PagedTable.Proofs.Gesture.Drag
import PagedTable.Proofs.Selection
import PagedTable.Proofs.Table.Refresh

/-! # What an operation can do to a table

An operation changes something the display depends on and refreshes the table,
or it touches no more than the gesture or the content that waits, or it ends a
drag. All else that is said of operations is derived from this. -/

namespace PagedTable

namespace Notice

def isRowsUpdated : Notice → Bool
  | .rowsUpdated _ => true
  | _ => false

def isFilter : Notice → Bool
  | .filterApplied _ => true
  | .filterCleared => true
  | _ => false

theorem filterMap_of_isFilter {α : Type} {read : Notice → Option α}
    (applied : ∀ text, read (.filterApplied text) = none) (cleared : read .filterCleared = none)
    {notices : List Notice} (told : ∀ notice ∈ notices, notice.isFilter = true) :
    notices.filterMap read = [] := by
  rw [List.filterMap_eq_nil_iff]
  intro notice member
  have filter := told notice member
  cases notice with
  | filterApplied text => exact applied text
  | filterCleared => exact cleared
  | _ => cases filter

end Notice

namespace Table

def Operation.update? : Operation → Option (List Record)
  | .update records => some records
  | _ => none

/-- Whether an operation is there to check rows. Where a click on a row counts as
one on its check box, the pointer that goes up without a drag is, too. -/
def Operation.checks (table : Table) : Operation → Bool
  | .check _ _ => true
  | .checkAll _ => true
  | .clickItem _ _ => true
  | .clickTitle => true
  | .pointerUp pointer _ =>
    table.options.selectAnywhere && table.gesture.press?.any (·.pointer = pointer)
  | _ => false

def Operation.invalidated? : Operation → Option RecordId
  | .invalidate id => some id
  | _ => none

def Operation.forget (operation : Operation) (records : List Record) : List Record :=
  (operation.invalidated?.map (forgetCells · records)).getD records

def Operation.query? : Operation → Option Query
  | .applyFilter text => some (.compile text)
  | .clearFilter => some .empty
  | _ => none

def Operation.aims : Operation → Bool
  | .pointerMove _ _ _ => true
  | .retarget _ => true
  | _ => false

def Operation.lifts : Operation → Bool
  | .pointerUp _ _ => true
  | _ => false

def grip? (table : Table) : Option Grip :=
  table.gesture.grip?

theorem isDragging_eq_isSome_grip? (table : Table) : table.isDragging = table.grip?.isSome :=
  table.gesture.isDragging_eq_isSome_grip?

theorem isDragging_congr {first second : Table} (grip : first.grip? = second.grip?) :
    first.isDragging = second.isDragging := by
  rw [isDragging_eq_isSome_grip?, grip, ← isDragging_eq_isSome_grip?]

theorem grip?_refresh (table : Table) : table.refresh.grip? = table.grip? := by
  rw [grip?, refresh_gesture, grip?]

/-! ## Ways in and out of a drag -/

theorem cancelDrag_of_dragging {table : Table} (dragging : table.isDragging = true) :
    table.cancelDrag.2 = { table with gesture := .idle }.finishCancelled := by
  unfold isDragging at dragging
  unfold cancelDrag
  cases known : table.gesture with
  | idle => rw [known] at dragging; cases dragging
  | armed row pointer origin => rw [known] at dragging; cases dragging
  | dragging drag => rfl

theorem cancelDrag_of_idle {table : Table} (idle : table.isDragging = false) :
    table.cancelDrag.2 = { table with gesture := .idle } := by
  unfold isDragging at idle
  unfold cancelDrag
  cases known : table.gesture with
  | idle => rfl
  | armed row pointer origin => rfl
  | dragging drag => rw [known] at idle; cases idle

/-- Any pointer that goes down ends a drag, the one that drags included. -/
theorem pointerDown_of_dragging {table : Table} (dragging : table.isDragging = true)
    (pointer : Nat) (row : Option RecordId) (line : Int) :
    table.pointerDown pointer row line = { table with gesture := .idle }.finishCancelled := by
  unfold isDragging at dragging
  unfold pointerDown
  cases known : table.gesture with
  | idle => rw [known] at dragging; cases dragging
  | armed armedRow armedBy origin => rw [known] at dragging; cases dragging
  | dragging drag => rfl

theorem pointerDown_of_idle {table : Table} (idle : table.isDragging = false)
    (pointer : Nat) (row : Option RecordId) (line : Int) :
    ∃ gesture : Gesture, gesture.isDragging = false ∧
      (∀ press ∈ gesture.press?,
        press.pointer = pointer ∧ row = some press.row ∧ press.line = line ∧
          press.row ∈ table.pageIds) ∧
      table.pointerDown pointer row line = { table with gesture } := by
  unfold isDragging at idle
  unfold pointerDown
  cases known : table.gesture with
  | idle =>
      cases shown : row.filter (· ∈ table.pageIds) with
      | none => exact ⟨.idle, rfl, nofun, rfl⟩
      | some shownRow =>
          have parts := Option.filter_eq_some_iff.mp shown
          refine ⟨.armed shownRow pointer line, rfl, ?_, rfl⟩
          rintro _ ⟨⟩
          exact ⟨rfl, parts.1, rfl, of_decide_eq_true parts.2⟩
  | armed armedRow armedBy origin => exact ⟨.idle, rfl, nofun, rfl⟩
  | dragging drag => rw [known] at idle; cases idle

theorem pointerUp_of_held {table : Table} {drag : Drag} (held : table.gesture = .dragging drag)
    (extend : Bool) :
    table.pointerUp drag.pointer extend =
      (none,
        { table with gesture := .idle }.finishDrop (drag.target.map (Move.mk drag.moving))) := by
  unfold pointerUp
  rw [held, Gesture.pointerUp, if_pos rfl]

/-- A pointer that does not hold the drag does nothing when it goes up. -/
theorem pointerUp_of_other {table : Table} {drag : Drag} (held : table.gesture = .dragging drag)
    {other : Nat} (different : other ≠ drag.pointer) (extend : Bool) :
    table.pointerUp other extend = (none, table) := by
  unfold pointerUp
  rw [held, Gesture.pointerUp, if_neg different.symm, ← held]

/-! ## Effects -/

/-- What an operation may change before it refreshes the table. Most operations
leave all of this as it is, which goes without saying. -/
structure Operation.Changes (operation : Operation) (table changed : Table) : Prop where
  hooks : changed.hooks = table.hooks := by rfl
  external : changed.external = table.external ∨ operation = .setExternal changed.external := by
    exact Or.inl rfl
  query : changed.query = operation.query?.getD table.query := by rfl
  content : operation.update? = none ∧ changed.content = operation.forget table.content ∨
    operation.update? = some changed.content ∧ table.isDragging = false := by
    exact Or.inl ⟨rfl, rfl⟩
  pending : changed.pending = table.pending := by rfl
  selection : changed.selection = table.selection ∨ operation.checks table = true := by
    exact Or.inl rfl
  rows : changed.rows = table.rows := by rfl
  gesture : changed.gesture = table.gesture ∨
    changed.gesture = .idle ∧ table.isDragging = false := by
    exact Or.inl rfl
  journal : changed.journal = table.journal := by rfl

namespace Operation.Changes

variable {operation : Operation} {table changed : Table}

theorem grip (changes : operation.Changes table changed) : changed.grip? = table.grip? := by
  rcases changes.gesture with same | ⟨idle, quiet⟩
  · rw [grip?, same, grip?]
  · rw [grip?, idle, grip?, Gesture.grip?_of_isDragging_eq_false quiet]
    rfl

theorem press (changes : operation.Changes table changed) :
    ∀ press ∈ changed.gesture.press?, table.gesture.press? = some press := by
  intro press pressed
  rcases changes.gesture with same | ⟨idle, _⟩
  · exact same ▸ pressed
  · rw [idle] at pressed
    cases pressed

end Operation.Changes

inductive Effect (table : Table) (operation : Operation) : Table → Prop
  | refreshed (changed : Table) (notices : List Notice)
      (changes : operation.Changes table changed)
      (told : ∀ notice ∈ notices, notice.isFilter = true) :
      Effect table operation (changed.refresh.note notices)
  | touched (gesture : Gesture) (grip : gesture.grip? = table.grip?)
      (noUpdate : operation.update? = none)
      (press : ∀ press ∈ gesture.press?, table.gesture.press? = some press ∨
        operation = .pointerDown press.pointer (some press.row) press.line ∧
          press.row ∈ table.pageIds)
      (aim : operation.aims = true ∨ gesture.aim? = table.gesture.aim?) :
      Effect table operation { table with gesture }
  | deferred (records : List Record) (update : operation.update? = some records)
      (dragging : table.isDragging = true) :
      Effect table operation { table with pending := some records }
  | started (row : RecordId) (pointer : Nat) (origin : Int)
      (armed : table.gesture = .armed row pointer origin) (gesture : Gesture)
      (grip : gesture.grip? =
        some ⟨Gesture.movingFrom row table.selection table.contentIds, pointer⟩)
      (noUpdate : operation.update? = none) (aims : operation.aims = true) :
      Effect table operation ({ table with gesture }.note [.dragStarted])
  | cancelled (dragging : table.isDragging = true) (noUpdate : operation.update? = none)
      (noLift : operation.lifts = false) :
      Effect table operation { table with gesture := .idle }.finishCancelled
  | dropped (drag : Drag) (held : table.gesture = .dragging drag)
      (noUpdate : operation.update? = none) (lifts : operation.lifts = true) :
      Effect table operation
        ({ table with gesture := .idle }.finishDrop (drag.target.map (Move.mk drag.moving)))

namespace Effect

variable {table : Table} {operation : Operation}

theorem of_refresh (changed : Table) (changes : operation.Changes table changed) :
    Effect table operation changed.refresh := by
  have effect := Effect.refreshed changed [] changes nofun
  rw [note, List.append_nil] at effect
  exact effect

theorem of_nothing (noUpdate : operation.update? = none) : Effect table operation table :=
  .touched table.gesture rfl noUpdate (fun _ pressed => Or.inl pressed) (Or.inr rfl)

theorem of_idle (gesture : Gesture) (stillIdle : gesture.isDragging = false)
    (idle : table.isDragging = false) (noUpdate : operation.update? = none)
    (press : ∀ press ∈ gesture.press?, table.gesture.press? = some press ∨
      operation = .pointerDown press.pointer (some press.row) press.line ∧
        press.row ∈ table.pageIds) :
    Effect table operation { table with gesture } := by
  refine .touched gesture ?_ noUpdate press (Or.inr ?_)
  · rw [Gesture.grip?_of_isDragging_eq_false stillIdle, grip?,
      Gesture.grip?_of_isDragging_eq_false idle]
  · rw [Gesture.aim?_of_isDragging_eq_false stillIdle, Gesture.aim?_of_isDragging_eq_false idle]

end Effect

theorem contentIds_forgetCells (id : RecordId) (records : List Record) :
    (forgetCells id records).map Record.id = records.map Record.id := by
  induction records with
  | nil => rfl
  | cons record rest induction =>
      rw [forgetCells]
      split
      · rfl
      · rw [List.map_cons, List.map_cons, induction]

theorem Operation.map_id_forget (operation : Operation) (records : List Record) :
    (operation.forget records).map Record.id = records.map Record.id := by
  unfold forget
  cases operation.invalidated? with
  | none => rfl
  | some id => exact contentIds_forgetCells id records

theorem contentIds_eq_of_forget {table changed : Table} {operation : Operation}
    (content : changed.content = operation.forget table.content) :
    changed.contentIds = table.contentIds := by
  rw [contentIds, content, operation.map_id_forget, contentIds]

theorem update_effect (table : Table) (records : List Record) :
    Effect table (.update records) (table.update records) := by
  unfold update
  cases dragging : table.isDragging with
  | true => exact .deferred records rfl dragging
  | false =>
      exact .of_refresh _ { content := Or.inr ⟨rfl, dragging⟩ }

theorem cancelDrag_effect (table : Table) {operation : Operation}
    (noUpdate : operation.update? = none) (noLift : operation.lifts = false) :
    Effect table operation table.cancelDrag.2 := by
  cases dragging : table.isDragging with
  | true =>
      rw [cancelDrag_of_dragging dragging]
      exact .cancelled dragging noUpdate noLift
  | false =>
      rw [cancelDrag_of_idle dragging]
      exact .of_idle .idle rfl dragging noUpdate nofun

theorem pointerDown_effect (table : Table) (pointer : Nat) (row : Option RecordId) (line : Int) :
    Effect table (.pointerDown pointer row line) (table.pointerDown pointer row line) := by
  cases dragging : table.isDragging with
  | true =>
      rw [pointerDown_of_dragging dragging]
      exact .cancelled dragging rfl rfl
  | false =>
      rcases pointerDown_of_idle dragging pointer row line with ⟨gesture, idle, armed, equal⟩
      rw [equal]
      refine .of_idle gesture idle dragging rfl fun press pressed => Or.inr ?_
      rcases armed press pressed with ⟨rfl, rfl, rfl, shown⟩
      exact ⟨rfl, shown⟩

theorem pointerMove_effect (table : Table) (pointer : Nat) (line : Int) (boxes : List RowBox) :
    Effect table (.pointerMove pointer line boxes) (table.pointerMove pointer line boxes) := by
  unfold pointerMove
  dsimp only
  rcases table.gesture.pointerMove_grip? table.options.drag pointer line boxes table.selection
    table.contentIds with ⟨unstarted, kept⟩ | ⟨row, origin, armed, started, held⟩
  · split
    · next moving event => exact absurd event (unstarted moving)
    · refine .touched _ kept rfl ?_ (Or.inl rfl)
      exact fun press pressed => Or.inl (Gesture.press?_pointerMove _ _ _ _ _ _ _ press pressed)
  · rw [started]
    exact .started row pointer origin armed _ held rfl rfl

theorem pointerUp_effect (table : Table) (pointer : Nat) (extend : Bool) :
    Effect table (.pointerUp pointer extend) (table.pointerUp pointer extend).2 := by
  cases known : table.gesture with
  | idle =>
      unfold pointerUp
      rw [known]
      exact .of_idle .idle rfl (congrArg Gesture.isDragging known) rfl nofun
  | armed row armedBy origin =>
      have idle : table.isDragging = false := congrArg Gesture.isDragging known
      unfold pointerUp
      by_cases same : armedBy = pointer
      · rw [known, Gesture.pointerUp, if_pos same]
        dsimp only
        split
        · next anywhere =>
          have checks : Operation.checks table (.pointerUp pointer extend) = true := by
            simp [Operation.checks, anywhere, known, Gesture.press?, same]
          exact .of_refresh _ { selection := Or.inr checks, gesture := Or.inr ⟨rfl, idle⟩ }
        · exact .of_idle .idle rfl idle rfl nofun
      · rw [known, Gesture.pointerUp, if_neg same]
        exact .of_idle _ rfl idle rfl fun _ pressed => Or.inl (known ▸ pressed)
  | dragging drag =>
      by_cases same : pointer = drag.pointer
      · rw [same, pointerUp_of_held known]
        exact .dropped drag known rfl rfl
      · rw [pointerUp_of_other known same]
        exact .of_nothing rfl

theorem perform_effect (table : Table) (operation : Operation) :
    Effect table operation (table.perform operation).2 := by
  cases operation with
  | update records => exact table.update_effect records
  | refresh => exact .of_refresh table {}
  | invalidate id =>
      change Effect table _ (table.invalidate id)
      unfold invalidate
      split
      · exact .of_refresh _ {}
      · exact .of_nothing rfl
  | applyFilter text =>
      refine .refreshed _ _ {} ?_
      intro notice member
      rw [List.mem_singleton.mp member]
      split <;> rfl
  | clearFilter =>
      refine .refreshed _ _ {} ?_
      intro notice member
      rw [List.mem_singleton.mp member]
      rfl
  | setExternal external => exact .of_refresh _ { external := Or.inr rfl }
  | setPageSize size maxLinks showDots => exact .of_refresh _ {}
  | setPage page => exact .of_refresh _ {}
  | clickPager entry =>
      change Effect table _ (table.clickPager entry).2
      unfold clickPager
      split
      · exact .of_refresh _ {}
      · exact .of_nothing rfl
  | shortcut shortcut =>
      cases shortcut with
      | abort => exact table.cancelDrag_effect rfl rfl
      | previousPage => exact .of_refresh _ {}
      | nextPage => exact .of_refresh _ {}
      | firstPage => exact .of_refresh _ {}
      | lastPage => exact .of_refresh _ {}
  | check id checked => exact .of_refresh _ { selection := Or.inr rfl }
  | checkAll checked => exact .of_refresh _ { selection := Or.inr rfl }
  | clickItem id extend => exact .of_refresh _ { selection := Or.inr rfl }
  | clickTitle => exact .of_refresh _ { selection := Or.inr rfl }
  | pointerDown pointer row line => exact table.pointerDown_effect pointer row line
  | pointerMove pointer line boxes => exact table.pointerMove_effect pointer line boxes
  | pointerUp pointer extend => exact table.pointerUp_effect pointer extend
  | cancelDrag => exact table.cancelDrag_effect rfl rfl
  | tick now extent =>
      refine .touched _ (Gesture.grip?_tick ..) rfl ?_ (Or.inr (Gesture.aim?_tick ..))
      exact fun _ pressed => Or.inl (Gesture.press?_tick .. ▸ pressed)
  | retarget boxes =>
      refine .touched _ (Gesture.grip?_retarget ..) rfl ?_ (Or.inl rfl)
      exact fun _ pressed => Or.inl (Gesture.press?_retarget .. ▸ pressed)

/-! ## Effects on the display -/

inductive Outcome (table : Table) (operation : Operation) : Table → Prop
  | refreshed (changed : Table) (notices : List Notice) (hooks : changed.hooks = table.hooks)
      (external : changed.external = table.external ∨
        operation = .setExternal changed.external) :
      Outcome table operation (changed.refresh.note notices)
  | untouched (gesture : Gesture) (pending : Option (List Record)) (notices : List Notice)
      (silent : notices.any Notice.isRowsUpdated = false) :
      Outcome table operation
        { table with gesture, pending, journal := table.journal ++ notices }

namespace Outcome

variable {table : Table} {operation : Operation}

theorem of_refresh (changed : Table) (hooks : changed.hooks = table.hooks)
    (external : changed.external = table.external ∨
      operation = .setExternal changed.external) :
    Outcome table operation changed.refresh := by
  have outcome := Outcome.refreshed changed [] hooks external
  rw [note, List.append_nil] at outcome
  exact outcome

theorem of_pending (gesture : Gesture) (pending : Option (List Record)) :
    Outcome table operation { table with gesture, pending } := by
  have outcome : Outcome table operation _ := .untouched gesture pending [] rfl
  rw [List.append_nil] at outcome
  exact outcome

theorem of_gesture (gesture : Gesture) : Outcome table operation { table with gesture } :=
  of_pending gesture table.pending

end Outcome

theorem Effect.outcome {table after : Table} {operation : Operation}
    (effect : Effect table operation after) : Outcome table operation after := by
  cases effect with
  | refreshed changed notices changes =>
      exact .refreshed changed notices changes.hooks changes.external
  | touched gesture => exact .of_gesture gesture
  | deferred records => exact .of_pending table.gesture (some records)
  | started row pointer origin armed gesture =>
      exact .untouched gesture table.pending [.dragStarted] rfl
  | cancelled => exact .of_refresh _ rfl (Or.inl rfl)
  | dropped => exact .of_refresh _ rfl (Or.inl rfl)

theorem perform_outcome (table : Table) (operation : Operation) :
    Outcome table operation (table.perform operation).2 :=
  (table.perform_effect operation).outcome

theorem Outcome.hooks_eq {table after : Table} {operation : Operation}
    (outcome : Outcome table operation after) : after.hooks = table.hooks := by
  cases outcome with
  | refreshed changed notices hooks external => exact changed.refresh_hooks.trans hooks
  | untouched gesture pending notices silent => rfl

/-! ## Runs -/

section

variable {α : Type} (operations : List Operation) {operation : Operation}
  {read : Operation → Option α}

theorem getLast?_filterMap_concat {value : α} (known : read operation = some value) :
    ((operations ++ [operation]).filterMap read).getLast? = some value := by
  simp [known]

theorem getLast?_filterMap_concat_none (none : read operation = none) :
    ((operations ++ [operation]).filterMap read).getLast? =
      (operations.filterMap read).getLast? := by
  simp [none]

end

theorem run_cons (table : Table) (operation : Operation) (operations : List Operation) :
    table.run (operation :: operations) = (table.perform operation).2.run operations := rfl

theorem run_append (table : Table) (first second : List Operation) :
    table.run (first ++ second) = (table.run first).run second :=
  List.foldl_append

/-- What every operation of a run preserves, the run preserves. -/
theorem run_keeps (property : Table → Prop) {table : Table} (holds : property table)
    (operations : List Operation)
    (step : ∀ other, property other →
      ∀ operation ∈ operations, property (other.perform operation).2) :
    property (table.run operations) :=
  List.foldlRecOn operations _ holds step

theorem hooks_run (table : Table) (operations : List Operation) :
    (table.run operations).hooks = table.hooks := by
  refine run_keeps (·.hooks = table.hooks) rfl operations ?_
  intro other same operation _
  exact (other.perform_outcome operation).hooks_eq.trans same

end Table

end PagedTable
