import PagedTable.Proofs.Table.Deferral

/-! # Drops

A drop puts what waited in place, moves what was dragged and tells the owner
once. It is told of a move only where the content has come into another order. -/

namespace PagedTable

def Notice.dragEnd? : Notice → Option (Option Move)
  | .dragEnded move => some move
  | _ => none

namespace Table

def moved (move : Option Move) (records : List Record) : List Record :=
  (move.map fun move => move.apply Record.id records).getD records

/-! ## What is told of a drop -/

def dragEnds (table : Table) : List (Option Move) :=
  table.journal.filterMap Notice.dragEnd?

theorem dragEnds_note (table : Table) (move : Option Move) :
    (table.note [.dragEnded move]).dragEnds = table.dragEnds ++ [move] :=
  List.filterMap_append

theorem dragEnds_refresh (table : Table) : table.refresh.dragEnds = table.dragEnds :=
  filterMap_journal_refresh (fun _ => rfl) (fun _ => rfl) table

/-! ## A drop as a whole -/

/-- The move that is reported, which is none where all stays in order. -/
def reportOf (move : Option Move) (records : List Record) : Option Move :=
  move.filter fun move => move.changes Record.id records

theorem reportOf_eq_none_iff {move : Option Move} {records : List Record} :
    reportOf move records = none ↔
      (moved move records).map Record.id = records.map Record.id := by
  cases move with
  | none => simp [reportOf, moved]
  | some move => simp [reportOf, moved, Option.filter, Move.changes]

theorem reportOf_eq_or (move : Option Move) (records : List Record) :
    reportOf move records = none ∨ reportOf move records = move := by
  cases move with
  | none => exact Or.inl rfl
  | some move =>
      cases changes : move.changes Record.id records with
      | true => exact Or.inr (Option.filter_some_pos changes)
      | false => exact Or.inl (Option.filter_some_neg (by simp [changes]))

theorem mem_of_mem_moved {move : Option Move} {records : List Record} {record : Record}
    (member : record ∈ moved move records) : record ∈ records := by
  cases move with
  | none => exact member
  | some move => exact (move.perm_apply Record.id records).mem_iff.mp member

/-- A move without effect may be left out. -/
theorem moved_reportOf (move : Option Move) (records : List Record) :
    moved (reportOf move records) records = moved move records := by
  rcases reportOf_eq_or move records with nothing | whole
  · have same := reportOf_eq_none_iff.mp nothing
    rw [nothing]
    cases move with
    | none => rfl
    | some move => exact (Move.apply_eq_self same).symm
  · rw [whole]

theorem finishDrop_eq (table : Table) (move : Option Move) :
    table.finishDrop move =
      ({ table with
          content := moved move (table.pending.getD table.content)
          pending := none }.note
        [.dragEnded (reportOf move (table.pending.getD table.content))]).refresh := by
  rw [← moved_reportOf]
  rfl

theorem moved_of_missing {move : Option Move} {records : List Record}
    (missing : ∀ made ∈ move, made.target.anchor ∉ records.map Record.id) :
    moved move records = records := by
  cases move with
  | none => rfl
  | some move => exact Move.apply_of_missing (missing move rfl)

structure CompletesDrop (table : Table) (base : List Record) (move : Option Move)
    (ended : Table) : Prop where
  content : List.Forall₂ (Record.IsShown table.hooks) (moved move base) ended.content
  missing : (∀ made ∈ move, made.target.anchor ∉ base.map Record.id) → moved move base = base
  report : ∃ report : Option Move,
    ended.dragEnds = table.dragEnds ++ [report] ∧
    (report = none ↔ ended.contentIds = base.map Record.id) ∧
    (report = none ∨ report = move) ∧
    ended =
      ({ table with gesture := .idle, content := moved move base, pending := none }.note
        [.dragEnded report]).refresh
  gesture : ended.gesture = .idle
  pending : ended.pending = none
  query : ended.query = table.query
  external : ended.external = table.external
  options : ended.options = table.options

/-- The pointer that holds a drag goes up: the content that waited, or else the
content there was, is there with the move made in it, and all is as after a
refresh of it. -/
theorem drop_completes (table : Table) (drag : Drag) (extend : Bool)
    (held : table.gesture = .dragging drag) :
    let base := table.pending.getD table.content
    let move := drag.target.map (Move.mk drag.moving)
    let ended := (table.perform (.pointerUp drag.pointer extend)).2
    CompletesDrop table base move ended ∧
    ∀ other ≠ drag.pointer, table.perform (.pointerUp other extend) = (.row none, table) := by
  intro base move ended
  let settled : Table :=
    { table with gesture := .idle, content := moved move base, pending := none }
  have whole : ended = (settled.note [.dragEnded (reportOf move base)]).refresh := by
    change (table.pointerUp drag.pointer extend).2 = _
    rw [pointerUp_of_held held, finishDrop_eq]
  refine ⟨?_, ?_⟩
  · rw [whole]
    refine ⟨forall₂_refresh_content (settled.note _), moved_of_missing,
      ⟨reportOf move base, ?_, ?_, reportOf_eq_or move base, rfl⟩, refresh_gesture _,
      refresh_pending _, refresh_query _, refresh_external _, refresh_options _⟩
    · rw [dragEnds_refresh, dragEnds_note]
      rfl
    · rw [refresh_contentIds]
      exact reportOf_eq_none_iff
  · intro other different
    change (table.pointerUp other extend).map Reply.row id = _
    rw [pointerUp_of_other held different]
    rfl

/-- Checked rows are dragged while other content comes, which has the anchor but
only one of them. -/
def dropTour : List Operation :=
  let record (number : Int) : Record := { id := .number number, contents := .text "" }
  [.update [record 1, record 2, record 3, record 4],
    .check (.number 2) true,
    .check (.number 4) true,
    .pointerDown 7 (some (.number 4)) 0,
    .pointerMove 7 5 [⟨.number 3, 4, 2⟩],
    .applyFilter "x",
    .update [record 3, record 5, record 4]]

theorem drop_completes_on_waiting_content :
    let table : Table := run {} dropTour
    let drag : Drag := ⟨[.number 2, .number 4], some ⟨.number 3, .after⟩, 7, 5, none⟩
    let ended := (table.perform (.pointerUp 7 false)).2
    table.gesture = .dragging drag ∧
      ended.contentIds = [.number 3, .number 4, .number 5] ∧
      ended.dragEnds = [some ⟨[.number 2, .number 4], ⟨.number 3, .after⟩⟩] ∧
      ended.pending = none ∧ ended.query = table.query ∧
      table.perform (.pointerUp 0 false) = (.row none, table) := by
  intro table drag ended
  have held : table.gesture = .dragging drag := by decide +kernel
  rcases drop_completes table drag false held with ⟨completes, others⟩
  rcases completes.report with ⟨report, told, unmoved, either, _⟩
  have contentIds : ended.contentIds = [.number 3, .number 4, .number 5] := by decide +kernel
  have before : table.dragEnds = [] := by decide +kernel
  have moved : report ≠ none := by
    rw [Ne, unmoved, contentIds]
    decide +kernel
  rw [before, either.resolve_left moved] at told
  exact ⟨held, contentIds, told, completes.pending, completes.query, others 0 (by decide)⟩

end Table

end PagedTable
