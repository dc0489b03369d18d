import PagedTable.Proofs.Table.Drop

/-! # What the owner is told of drags

The owner is told when a drag starts, and told once when it ends, in a drop or
by being called off. Whatever happens to the table in between, the drag holds
on to the rows and the pointer it started with. -/

namespace PagedTable

inductive DragReport where
  | started
  | ended (move : Option Move)
  | cancelled
deriving DecidableEq, Repr

namespace DragReport

/-- Whether a drag is open after a report, given whether one was open before;
`none` where the report is out of turn. -/
def next? : Bool → DragReport → Option Bool
  | false, .started => some true
  | true, .ended _ => some false
  | true, .cancelled => some false
  | _, _ => none

end DragReport

def Notice.dragReport? : Notice → Option DragReport
  | .dragStarted => some .started
  | .dragEnded move => some (.ended move)
  | .dragCancelled => some .cancelled
  | _ => none

namespace Table

def dragReports (table : Table) : List DragReport :=
  table.journal.filterMap Notice.dragReport?

/-- What a drag would hold on to if it started at this moment. -/
def armedGrip? (table : Table) : Option Grip :=
  match table.gesture with
  | .armed row pointer _ =>
    some ⟨Gesture.movingFrom row table.selection table.contentIds, pointer⟩
  | _ => none

theorem dragReports_note (table : Table) (notices : List Notice) :
    (table.note notices).dragReports =
      table.dragReports ++ notices.filterMap Notice.dragReport? :=
  List.filterMap_append

theorem dragReports_refresh (table : Table) : table.refresh.dragReports = table.dragReports :=
  filterMap_journal_refresh (fun _ => rfl) (fun _ => rfl) table

/-! ## One operation -/

inductive DragStep (before after : Table) : Prop
  | quiet (reports : after.dragReports = before.dragReports) (grip : after.grip? = before.grip?)
  | started (reports : after.dragReports = before.dragReports ++ [.started])
      (idle : before.grip? = none) (armed : before.armedGrip?.isSome = true)
      (held : after.grip? = before.armedGrip?)
  | ended (move : Option Move) (reports : after.dragReports = before.dragReports ++ [.ended move])
      (grip : Grip) (held : before.grip? = some grip) (idle : after.grip? = none)
      (ids : ∀ made ∈ move, made.ids = grip.moving)
  | cancelled (reports : after.dragReports = before.dragReports ++ [.cancelled])
      (grip : Grip) (held : before.grip? = some grip) (idle : after.grip? = none)

namespace DragStep

variable {table : Table}

theorem of_finishCancelled {grip : Grip} (held : table.grip? = some grip) :
    DragStep table { table with gesture := .idle }.finishCancelled := by
  refine .cancelled ?_ grip held ?_
  · exact (dragReports_refresh _).trans (dragReports_note _ [.dragCancelled])
  · exact grip?_refresh _

theorem of_finishDrop {grip : Grip} (held : table.grip? = some grip) {move : Option Move}
    (ids : ∀ made ∈ move, made.ids = grip.moving) :
    DragStep table ({ table with gesture := .idle }.finishDrop move) := by
  rw [finishDrop_eq]
  refine .ended (reportOf move (table.pending.getD table.content)) ?_ grip held ?_ ?_
  · exact (dragReports_refresh _).trans (dragReports_note _ [.dragEnded _])
  · exact grip?_refresh _
  · intro made reported
    rcases reportOf_eq_or move (table.pending.getD table.content) with nothing | whole
    · rw [nothing] at reported
      cases reported
    · exact ids made (whole ▸ reported)

end DragStep

theorem Effect.dragStep {table after : Table} {operation : Operation}
    (effect : Effect table operation after) : DragStep table after := by
  cases effect with
  | refreshed changed notices changes told =>
      refine .quiet ?_ ((grip?_refresh changed).trans changes.grip)
      rw [dragReports_note, Notice.filterMap_of_isFilter (fun _ => rfl) rfl told,
        List.append_nil, dragReports_refresh, dragReports, changes.journal, dragReports]
  | touched gesture grip noUpdate => exact .quiet rfl grip
  | deferred records update dragging => exact .quiet rfl rfl
  | started row pointer origin armed gesture grip noUpdate =>
      have ready : table.armedGrip? =
          some ⟨Gesture.movingFrom row table.selection table.contentIds, pointer⟩ := by
        rw [armedGrip?, armed]
      refine .started (dragReports_note _ [.dragStarted]) ?_ ?_ (grip.trans ready.symm)
      · exact congrArg Gesture.grip? armed
      · rw [ready]
        rfl
  | cancelled dragging noUpdate =>
      rw [isDragging_eq_isSome_grip?] at dragging
      obtain ⟨grip, held⟩ := Option.isSome_iff_exists.mp dragging
      exact .of_finishCancelled held
  | dropped drag held noUpdate =>
      have grip : table.grip? = some ⟨drag.moving, drag.pointer⟩ := congrArg Gesture.grip? held
      refine .of_finishDrop grip ?_
      intro made intended
      rcases Option.map_eq_some_iff.mp intended with ⟨target, _, rfl⟩
      rfl

theorem perform_dragStep (table : Table) (operation : Operation) :
    DragStep table (table.perform operation).2 :=
  (table.perform_effect operation).dragStep

/-! ## Runs -/

/-- Whether all reports so far came in turn, with a drag open just when there is
one. -/
def ReportsInTurn (table : Table) : Prop :=
  table.dragReports.foldlM DragReport.next? false = some table.isDragging

namespace DragStep

variable {before after : Table}

theorem reportsInTurn (step : DragStep before after) (inTurn : before.ReportsInTurn) :
    after.ReportsInTurn := by
  unfold ReportsInTurn at inTurn ⊢
  rw [isDragging_eq_isSome_grip?] at inTurn ⊢
  cases step with
  | quiet reports grip => rw [reports, grip, inTurn]
  | started reports idle armed held =>
      rw [reports, List.foldlM_append, inTurn, idle, held, armed]
      rfl
  | ended move reports grip held idle ids =>
      rw [reports, List.foldlM_append, inTurn, held, idle]
      rfl
  | cancelled reports grip held idle =>
      rw [reports, List.foldlM_append, inTurn, held, idle]
      rfl

theorem prefix_dragReports (step : DragStep before after) :
    before.dragReports <+: after.dragReports := by
  cases step with
  | quiet reports grip => exact ⟨[], (List.append_nil _).trans reports.symm⟩
  | started reports idle armed held => exact ⟨_, reports.symm⟩
  | ended move reports grip held idle ids => exact ⟨_, reports.symm⟩
  | cancelled reports grip held idle => exact ⟨_, reports.symm⟩

/-- Where nothing is told, the grip is what it was. -/
theorem grip?_of_silent (step : DragStep before after)
    (silent : after.dragReports = before.dragReports) : after.grip? = before.grip? := by
  have told : ∀ report, after.dragReports ≠ before.dragReports ++ [report] := by
    intro report reports
    rw [silent] at reports
    exact List.cons_ne_nil report [] (List.self_eq_append_right.mp reports)
  cases step with
  | quiet reports grip => exact grip
  | started reports idle armed held => exact absurd reports (told _)
  | ended move reports grip held idle ids => exact absurd reports (told _)
  | cancelled reports grip held idle => exact absurd reports (told _)

/-- Where a start is told, what was armed is held. -/
theorem armedGrip?_of_started (step : DragStep before after)
    (start : after.dragReports = before.dragReports ++ [.started]) :
    ∃ grip, before.armedGrip? = some grip ∧ after.grip? = some grip := by
  cases step with
  | quiet reports grip =>
      rw [reports] at start
      exact absurd (List.self_eq_append_right.mp start) (List.cons_ne_nil _ _)
  | started reports idle armed held =>
      obtain ⟨grip, ready⟩ := Option.isSome_iff_exists.mp armed
      exact ⟨grip, ready, held.trans ready⟩
  | ended move reports grip held idle ids =>
      cases List.append_cancel_left (reports.symm.trans start)
  | cancelled reports grip held idle =>
      cases List.append_cancel_left (reports.symm.trans start)

end DragStep

theorem run_reportsInTurn {table : Table} (inTurn : table.ReportsInTurn)
    (operations : List Operation) : (table.run operations).ReportsInTurn :=
  run_keeps ReportsInTurn inTurn operations fun other still operation _ =>
    (other.perform_dragStep operation).reportsInTurn still

theorem prefix_dragReports_run (table : Table) (operations : List Operation) :
    table.dragReports <+: (table.run operations).dragReports := by
  refine run_keeps (table.dragReports <+: ·.dragReports) (List.prefix_refl _) operations ?_
  intro other initial operation _
  exact initial.trans (other.perform_dragStep operation).prefix_dragReports

theorem grip?_run_of_silent {table : Table} {operations : List Operation}
    (silent : (table.run operations).dragReports = table.dragReports) :
    (table.run operations).grip? = table.grip? := by
  induction operations generalizing table with
  | nil => rfl
  | cons operation operations induction =>
      rw [run_cons] at silent ⊢
      -- what is told is never taken back, so that no step on the way told anything
      have step := table.perform_dragStep operation
      have later := prefix_dragReports_run (table.perform operation).2 operations
      rw [silent] at later
      have same : (table.perform operation).2.dragReports = table.dragReports :=
        later.eq_of_length_le step.prefix_dragReports.length_le
      rw [induction (silent.trans same.symm), step.grip?_of_silent same]

/-- The reports of drags alternate. From its start to its end a drag holds on to
what was armed, and whatever is done next either leaves it open or ends it with
one report, of no other rows than these. -/
theorem drags_reported_once (options : TableOptions) (hooks : Hooks) :
    (∀ operations : List Operation, (run { options, hooks } operations).ReportsInTurn) ∧
      ∀ (before : List Operation) (start : Operation) (during : List Operation),
        let armed := run { options, hooks } before
        let started := (armed.perform start).2
        let table := started.run during
        started.dragReports = armed.dragReports ++ [.started] →
        table.dragReports = started.dragReports →
        ∃ grip, armed.armedGrip? = some grip ∧ table.grip? = some grip ∧
          ∀ operation,
            let after := (table.perform operation).2
            after.dragReports = table.dragReports ∧ after.grip? = some grip ∨
              after.dragReports = table.dragReports ++ [.cancelled] ∧ after.grip? = none ∨
              ∃ move, after.dragReports = table.dragReports ++ [.ended move] ∧
                after.grip? = none ∧ ∀ made ∈ move, made.ids = grip.moving := by
  constructor
  · exact run_reportsInTurn rfl
  · intro before start during armed started table told silent
    obtain ⟨grip, ready, held⟩ := (armed.perform_dragStep start).armedGrip?_of_started told
    have holds : table.grip? = some grip := (grip?_run_of_silent silent).trans held
    refine ⟨grip, ready, holds, fun operation => ?_⟩
    cases table.perform_dragStep operation with
    | quiet reports same => exact Or.inl ⟨reports, same.trans holds⟩
    | started reports idle _ _ =>
        rw [holds] at idle
        cases idle
    | ended move reports other otherHeld idle ids =>
        cases holds.symm.trans otherHeld
        exact Or.inr (Or.inr ⟨move, reports, idle, ids⟩)
    | cancelled reports other otherHeld idle => exact Or.inr (Or.inl ⟨reports, idle⟩)

/-- Two checked rows go on being dragged while the filter, the content and the
check of one of them change. -/
theorem drags_reported_once_among_changes :
    let armed := run {} (dropTour.take 4)
    let started := (armed.perform (.pointerMove 7 5 [⟨.number 3, 4, 2⟩])).2
    let table := started.run (dropTour.drop 5 ++ [.check (.number 2) false])
    started.dragReports = armed.dragReports ++ [.started] ∧
      table.dragReports = started.dragReports ∧
      table.grip? = some ⟨[.number 2, .number 4], 7⟩ ∧
      table.selection.checked = [.number 4] ∧
      (table.perform (.pointerUp 7 false)).2.dragReports =
        [.started, .ended (some ⟨[.number 2, .number 4], ⟨.number 3, .after⟩⟩)] := by
  intro armed started table
  have told : started.dragReports = armed.dragReports ++ [.started] := by decide +kernel
  have silent : table.dragReports = started.dragReports := by decide +kernel
  have ready : armed.armedGrip? = some ⟨[.number 2, .number 4], 7⟩ := by decide +kernel
  rcases (drags_reported_once {} {}).2 _ _ _ told silent with ⟨grip, same, held, _⟩
  rw [← same, ready] at held
  exact ⟨told, silent, held, by decide +kernel, by decide +kernel⟩

end Table

end PagedTable
