import PagedTable.Proofs.Table.Display

/-! # Content that waits and content that comes later

Content that comes during a drag waits for its end. When the drag is called off,
the table is what it would be if the content had come only then: the refresh in
between shows once more what is shown already, and leaves no trace. -/

namespace PagedTable.Table

def refreshNotices (table : Table) : List Notice :=
  table.paged.fillNotices ++ [.rowsUpdated table.refresh.stats]

/-- A refresh makes the edits anew and only adds to the journal. -/
theorem refresh_of_edits (table : Table) (rowEdits : List RowEdit) (barEdits : List Edit)
    (journal : List Notice) :
    ({ table with rowEdits, barEdits, journal } : Table).refresh =
      { table.refresh with journal := journal ++ table.refreshNotices } := by
  rw [refreshNotices, ← List.append_assoc, refresh_eq, refresh_eq]
  rfl

theorem update_of_dragging {table : Table} (dragging : table.isDragging = true)
    (records : List Record) : table.update records = { table with pending := some records } := by
  rw [update, if_pos dragging]

theorem update_of_idle {table : Table} (idle : table.isDragging = false) (records : List Record) :
    table.update records = { table with content := records }.refresh := by
  rw [update, idle]
  rfl

/-- Of all that comes during a drag, the last waits. -/
theorem run_updates {table : Table} (dragging : table.isDragging = true)
    (earlier : List (List Record)) (last : List Record) :
    table.run ((earlier ++ [last]).map .update) = { table with pending := some last } := by
  induction earlier generalizing table with
  | nil => exact update_of_dragging dragging last
  | cons records earlier induction =>
      have waits : { table with pending := some records }.isDragging = true := dragging
      rw [List.cons_append, List.map_cons, run_cons]
      change (table.update records).run _ = _
      rw [update_of_dragging dragging, induction waits]

def replaced (table : Table) (records : List Record) : Table :=
  { table with gesture := .idle, pending := none, content := records }

theorem run_deferred {table : Table} (dragging : table.isDragging = true)
    (earlier : List (List Record)) (last : List Record) :
    table.run ((earlier ++ [last]).map .update ++ [.cancelDrag]) =
      { (table.replaced last).refresh with
        journal := table.journal ++ [.dragCancelled] ++ (table.replaced last).refreshNotices } := by
  have waits : { table with pending := some last }.isDragging = true := dragging
  rw [run_append, run_updates dragging]
  change { table with pending := some last }.cancelDrag.2 = _
  rw [cancelDrag_of_dragging waits]
  exact refresh_of_edits (table.replaced last) table.rowEdits table.barEdits _

theorem run_postponed {table : Table} (upToDate : table.UpToDate)
    (dragging : table.isDragging = true) (nothing : table.pending = none) (last : List Record) :
    table.run [.cancelDrag, .update last] =
      { (table.replaced last).refresh with
        journal := table.journal ++ [.dragCancelled, .rowsUpdated table.stats] ++
          (table.replaced last).refreshNotices } := by
  have released : table.cancelDrag.2 =
      { table with
        gesture := .idle
        pending := none
        rowEdits := []
        barEdits := []
        journal := table.journal ++ [.dragCancelled] ++ [.rowsUpdated table.stats] } := by
    rw [cancelDrag_of_dragging dragging, finishCancelled, takePending]
    dsimp only [note]
    rw [nothing]
    exact (upToDate.touch .idle none _).refresh_eq
  change table.cancelDrag.2.update last = _
  rw [released, update_of_idle rfl, List.append_assoc]
  exact refresh_of_edits (table.replaced last) [] [] _

/-- A drag that is called off after any number of updates leaves what it leaves
when it is called off first and the last update comes then. The owner is told once
less of the rows that were there. -/
theorem deferring_is_postponing (options : TableOptions) (hooks : Hooks)
    (operations : List Operation)
    (refreshed : (run { options, hooks } operations).WasRefreshed = true) :
    let table := run { options, hooks } operations
    table.FilterIgnoresCells → table.isDragging = true → table.pending = none →
    ∀ (earlier : List (List Record)) (last : List Record),
      let deferred := table.run ((earlier ++ [last]).map .update ++ [.cancelDrag])
      let postponed := table.run [.cancelDrag, .update last]
      deferred.gesture = .idle ∧ deferred.contentIds = last.map Record.id ∧
        ∃ notices,
          deferred.journal = table.journal ++ [.dragCancelled] ++ notices ∧
          postponed =
            { deferred with
              journal := table.journal ++ [.dragCancelled, .rowsUpdated table.stats] ++
                notices } := by
  intro table ignores dragging nothing earlier last deferred postponed
  have upToDate : table.UpToDate := upToDate_run_new refreshed ignores
  have early : deferred = _ := run_deferred dragging earlier last
  have late : postponed = _ := run_postponed upToDate dragging nothing last
  refine ⟨?_, ?_, (table.replaced last).refreshNotices, ?_, ?_⟩
  · rw [early]
    exact refresh_gesture _
  · rw [early]
    exact refresh_contentIds _
  · rw [early]
  · rw [late, early]

/-- The row that is dragged and checked goes with the first update and is back with
the last. -/
theorem deferring_is_postponing_on_tour :
    let record (number : Int) : Record := { id := .number number, contents := .text "" }
    let table := run {} tour.dropLast
    let last := [record 5, record 2, record 8]
    let deferred := table.run [.update [record 9], .update [], .update last, .cancelDrag]
    let postponed := table.run [.cancelDrag, .update last]
    table.WasRefreshed = true ∧ table.FilterIgnoresCells ∧
      table.gesture = .dragging ⟨[.number 5], none, 0, 4, none⟩ ∧ table.pending = none ∧
      deferred.contentIds = [.number 5, .number 2, .number 8] ∧
      deferred.selection.checked = [.number 5] ∧
      postponed = { deferred with journal := postponed.journal } := by
  intro record table last deferred postponed
  have refreshed : table.WasRefreshed = true := by decide +kernel
  have ignores : table.FilterIgnoresCells := by
    have external : table.external =
        some fun record : Record => decide (record.id ≠ .number 2) := rfl
    rw [FilterIgnoresCells, external]
    rintro _ ⟨⟩ record cells
    rfl
  have held : table.gesture = .dragging ⟨[.number 5], none, 0, 4, none⟩ := by decide +kernel
  have nothing : table.pending = none := by decide +kernel
  have dragging : table.isDragging = true := by
    rw [isDragging, held]
    rfl
  rcases deferring_is_postponing {} {} tour.dropLast refreshed ignores dragging nothing
    [[record 9], []] last with ⟨_, contentIds, _, _, same⟩
  have journals : postponed.journal = _ := congrArg Table.journal same
  refine ⟨refreshed, ignores, held, nothing, contentIds, by decide +kernel, ?_⟩
  rw [journals]
  exact same

end PagedTable.Table
