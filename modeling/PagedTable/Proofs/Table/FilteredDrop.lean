import PagedTable.Proofs.Table.Display
import PagedTable.Proofs.Table.Preview

/-! # Drops seen through a filter

A drop moves records in the whole content. Who sees only the records that pass a
filter sees the same move made among these. -/

namespace PagedTable.Table

theorem filteredIds_drop {table : Table} {drag : Drag} (held : table.gesture = .dragging drag)
    (nothing : table.pending = none) (extend : Bool) :
    (table.perform (.pointerUp drag.pointer extend)).2.filteredIds =
      ((moved (drag.target.map (Move.mk drag.moving)) table.content).filter
        table.accepts).map Record.id := by
  rcases perform_drop held nothing extend with ⟨notices, whole⟩
  rw [whole]
  exact filteredIds_refresh _

theorem filter_moved_rest (moving : List RecordId) (target : Option Target)
    (records : List Record) :
    (moved (target.map (Move.mk moving)) records).filter (·.id ∉ moving) =
      records.filter (·.id ∉ moving) := by
  cases target with
  | none => rfl
  | some target =>
      have rest := (Move.mk moving target).filter_apply_rest Record.id records
      simpa [moved] using rest

/-- What a drop does not move stays in its order, on display or not. -/
theorem forall₂_rest_drop {table : Table} {drag : Drag} (held : table.gesture = .dragging drag)
    (nothing : table.pending = none) (extend : Bool) :
    List.Forall₂ (Record.IsShown table.hooks) (table.content.filter (·.id ∉ drag.moving))
      ((table.perform (.pointerUp drag.pointer extend)).2.content.filter
        (·.id ∉ drag.moving)) := by
  rcases perform_drop held nothing extend with ⟨notices, whole⟩
  let changed : Table := { table with
    gesture := .idle
    content := moved (drag.target.map (Move.mk drag.moving)) table.content }.note notices
  rw [whole, ← filter_moved_rest drag.moving drag.target]
  refine List.rel_filter ?_ (forall₂_refresh_content changed)
  intro given shown related
  simp only [related.id_eq]

/-- After a drop next to a record that passes the filters, these show the same move
of what passed them before, and of what was shown unless a filter looks at the cells. -/
theorem drop_seen_through_filter (options : TableOptions) (hooks : Hooks)
    (operations : List Operation) :
    let table := run { options, hooks } operations
    table.contentIds.Nodup → table.pending = none →
    ∀ (drag : Drag) (target : Target) (extend : Bool), table.gesture = .dragging drag →
      drag.target = some target → target.anchor ∈ table.passingIds →
      let move : Move := ⟨drag.moving, target⟩
      let ended := (table.perform (.pointerUp drag.pointer extend)).2
      (table.FilterIgnoresCells → ended.filteredIds = move.apply id table.filteredIds) ∧
        ended.filteredIds = move.apply id table.passingIds ∧
        List.Forall₂ (Record.IsShown hooks) (table.content.filter (·.id ∉ drag.moving))
          (ended.content.filter (·.id ∉ drag.moving)) := by
  intro table nodup nothing drag target extend held aimed passes move ended
  have seen : ended.filteredIds = move.apply id table.passingIds := by
    rw [filteredIds_drop held nothing extend, aimed]
    exact passingIds_moved nodup passes
  refine ⟨fun ignores => ?_, seen, ?_⟩
  · have known : target.anchor ∈ table.contentIds :=
      (List.filter_sublist.map Record.id).subset passes
    have upToDate : table.UpToDate := upToDate_run_new (wasRefreshed_of_mem known) ignores
    rw [seen, upToDate.filteredIds_eq]
  · rw [← show table.hooks = hooks from hooks_run _ operations]
    exact forall₂_rest_drop held nothing extend

/-- Of six rows the filter hides the second, which is dragged along, and the fourth,
which is not. -/
theorem drop_seen_through_filter_past_hidden_rows :
    let record (number : Int) (text : String) : Record :=
      { id := .number number, contents := .text text }
    let operations : List Operation :=
      [.update [record 1 "x", record 2 "", record 3 "x", record 4 "", record 5 "x", record 6 "x"],
        .check (.number 2) true,
        .check (.number 3) true,
        .check (.number 5) true,
        .applyFilter "x",
        .pointerDown 0 (some (.number 3)) 2,
        .pointerMove 0 6 [⟨.number 3, 2, 2⟩, ⟨.number 6, 6, 2⟩]]
    let table := run {} operations
    let ended := (table.perform (.pointerUp 0 false)).2
    let drag : Drag :=
      ⟨[.number 2, .number 3, .number 5], some ⟨.number 6, .before⟩, 0, 6, none⟩
    table.contentIds.Nodup ∧ table.pending = none ∧ table.gesture = .dragging drag ∧
      .number 6 ∈ table.passingIds ∧ table.FilterIgnoresCells ∧
      ended.filteredIds = [.number 1, .number 3, .number 5, .number 6] ∧
      ended.contentIds =
        [.number 1, .number 4, .number 2, .number 3, .number 5, .number 6] ∧
      List.Forall₂ (Record.IsShown {}) (table.content.filter (·.id ∉ drag.moving))
        (ended.content.filter (·.id ∉ drag.moving)) := by
  intro record operations table ended drag
  have nodup : table.contentIds.Nodup := by decide +kernel
  have nothing : table.pending = none := by decide +kernel
  have held : table.gesture = .dragging drag := by decide +kernel
  have passes : .number 6 ∈ table.passingIds := by decide +kernel
  have ignores : table.FilterIgnoresCells := by
    have external : table.external.isNone = true := by decide +kernel
    intro filter member
    rw [Option.isNone_iff_eq_none.mp external] at member
    cases member
  have before : table.filteredIds = [.number 1, .number 3, .number 5, .number 6] := by
    decide +kernel
  rcases drop_seen_through_filter {} {} operations nodup nothing drag _ false held rfl passes with
    ⟨seen, _, rest⟩
  refine ⟨nodup, nothing, held, passes, ignores, ?_, by decide +kernel, rest⟩
  rw [seen ignores, before]
  decide

/-- The filter lets through what has not been shown so far, and the last row in any
case. The rows that are shown with it during the drag are gone after it. -/
theorem drop_loses_rows_unseen_only :
    let record (number : Int) : Record := { id := .number number, contents := .text "" }
    let operations : List Operation :=
      [.setExternal (some fun record => record.cells.isNone || record.id = .number 3),
        .update [record 1, record 2, record 3],
        .pointerDown 0 (some (.number 1)) 0,
        .pointerMove 0 5 [⟨.number 1, 0, 2⟩, ⟨.number 2, 2, 2⟩, ⟨.number 3, 4, 2⟩]]
    let table := run {} operations
    let move : Move := ⟨[.number 1], ⟨.number 3, .after⟩⟩
    let ended := (table.perform (.pointerUp 0 false)).2
    table.contentIds.Nodup ∧ table.pending = none ∧
      table.gesture = .dragging ⟨move.ids, some move.target, 0, 5, none⟩ ∧
      move.target.anchor ∈ table.passingIds ∧
      move.apply id table.filteredIds = [.number 2, .number 3, .number 1] ∧
      ended.filteredIds = [.number 3] := by
  decide +kernel

end PagedTable.Table
