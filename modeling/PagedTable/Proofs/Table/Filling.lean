import PagedTable.Proofs.Table.Drop
import PagedTable.Proofs.Table.UpToDate

/-! # Cells are asked for once

The cells of a record are asked for when it is on display without any. A record is
followed here from the operation it comes with, through every move, until other
content takes its place, and all that time the owner is not asked again unless
the cells have been forgotten. -/

namespace PagedTable

def Notice.filled? : Notice → Option RecordId
  | .filled id => some id
  | _ => none

namespace Table

def fillCalls (table : Table) : List RecordId :=
  table.journal.filterMap Notice.filled?

/-! ## What an operation hands on -/

def endedDrag? (table : Table) (operation : Operation) : Option Drag :=
  if (table.perform operation).2.isDragging then none else table.gesture.drag?

/-- The content that comes with an operation: that of an update, or what has waited
for the drag that ends. -/
def arrival? (table : Table) (operation : Operation) : Option (List Record) :=
  if table.isDragging then (table.endedDrag? operation).bind fun _ => table.pending
  else operation.update?

def move? (table : Table) (operation : Operation) : Option Move :=
  if operation.lifts then
    (table.endedDrag? operation).bind fun drag => drag.target.map (Move.mk drag.moving)
  else none

def brought (table : Table) (operation : Operation) : List Record :=
  (table.arrival? operation).getD table.content

def tracked (move : Option Move) (records : List Record) : List (Record × Nat) :=
  (move.map fun move => move.apply (fun entry => entry.1.id) records.zipIdx).getD records.zipIdx

/-- The records that an operation leaves, before any cells are filled, each with
the place it had. -/
def carried (table : Table) (operation : Operation) : List (Record × Nat) :=
  tracked (table.move? operation) (operation.forget (table.brought operation))

def destination (table : Table) (operation : Operation) (place : Nat) : Nat :=
  ((table.carried operation).map Prod.snd).idxOf place

theorem map_fst_tracked (move : Option Move) (records : List Record) :
    (tracked move records).map Prod.fst = moved move records := by
  cases move with
  | none => exact List.zipIdx_map_fst 0 records
  | some move =>
      change (move.apply (fun entry => Record.id (Prod.fst entry)) records.zipIdx).map Prod.fst =
        move.apply Record.id records
      rw [Move.map_apply_of, List.zipIdx_map_fst]

theorem perm_tracked (move : Option Move) (records : List Record) :
    (tracked move records).Perm records.zipIdx := by
  cases move with
  | none => exact .refl _
  | some move => exact move.perm_apply _ _

theorem nodup_origins (move : Option Move) (records : List Record) :
    ((tracked move records).map Prod.snd).Nodup := by
  rw [((perm_tracked move records).map Prod.snd).nodup_iff, List.zipIdx_map_snd]
  exact List.nodup_range'

theorem idxOf_origin {move : Option Move} {records : List Record} {record : Record}
    {place origin : Nat} (found : (tracked move records)[place]? = some (record, origin)) :
    ((tracked move records).map Prod.snd).idxOf origin = place := by
  have known : ((tracked move records).map Prod.snd)[place]? = some origin := by
    rw [List.getElem?_map, found, Option.map_some]
  rcases List.getElem?_eq_some_iff.mp known with ⟨within, rfl⟩
  exact (nodup_origins move records).idxOf_getElem place within

/-- Every record is found where it has gone. -/
theorem getElem?_tracked_idxOf {move : Option Move} {records : List Record} {record : Record}
    {place : Nat} (here : records[place]? = some record) :
    (tracked move records)[((tracked move records).map Prod.snd).idxOf place]? =
      some (record, place) := by
  have member : (record, place) ∈ tracked move records :=
    (perm_tracked move records).mem_iff.mpr (List.mk_mem_zipIdx_iff_getElem?.mpr here)
  rcases List.getElem?_of_mem member with ⟨index, found⟩
  rw [idxOf_origin found, found]

/-! ## Calls -/

def unfilledPlaces (table : Table) (records : List Record) : List Nat :=
  (table.pageSpan.of table.filtered).filter fun place =>
    records[place]?.any fun record => record.cells.isNone

def askedAmong (table : Table) (records : List Record) : List Nat :=
  if table.hooks.fill.isSome then table.unfilledPlaces records else []

def askedPlaces (table : Table) (operation : Operation) : List Nat :=
  (table.perform operation).2.askedAmong ((table.carried operation).map Prod.fst)

/-- Whether a table has come to show records with their cells filled, and the owner
was asked for no other cells than those missing on the page, once each and in one
refresh. -/
structure Fills (before : Table) (records : List Record) (after : Table) : Prop where
  content : ∀ place, after.content[place]? = records[place]?.map fun record =>
    if place ∈ after.pageSpan.of after.filtered then record.fill before.hooks else record
  nodup : (after.askedAmong records).Nodup
  calls : after.fillCalls = before.fillCalls ++
    (after.askedAmong records).filterMap fun place => records[place]?.map Record.id
  refreshed : after.askedAmong records ≠ [] → ∃ (changed : Table) (notices : List Notice),
    after = changed.refresh.note notices ∧ changed.fillCalls = before.fillCalls ∧
      notices.filterMap Notice.filled? = []

def PageFilled (table : Table) : Prop :=
  ∀ record ∈ table.pageRecords, record.cells.isSome = true

theorem fillCalls_note (table : Table) (notices : List Notice) :
    (table.note notices).fillCalls = table.fillCalls ++ notices.filterMap Notice.filled? :=
  List.filterMap_append

theorem filter_pageRecords (table : Table) :
    table.pageRecords.filter (fun record => record.cells.isNone) =
      (table.unfilledPlaces table.content).filterMap (table.content[·]?) := by
  unfold pageRecords unfilledPlaces
  generalize table.pageSpan.of table.filtered = places
  induction places with
  | nil => rfl
  | cons place places induction =>
      cases known : table.content[place]? with
      | none => simp [known, induction]
      | some record =>
          cases missing : record.cells.isNone with
          | true => simp [known, missing, induction]
          | false => simp [known, missing, induction]

theorem filterMap_filled?_fillNotices (table : Table) :
    table.fillNotices.filterMap Notice.filled? =
      (table.askedAmong table.content).filterMap fun place =>
        table.content[place]?.map Record.id := by
  unfold fillNotices askedAmong
  split
  · rw [List.filterMap_map, filter_pageRecords, List.filterMap_filterMap]
    apply List.filterMap_congr
    intro place _
    cases table.content[place]? with
    | none => rfl
    | some record => rfl
  · rfl

theorem askedAmong_refresh (table : Table) (records : List Record) :
    table.refresh.askedAmong records = table.paged.askedAmong records := by
  rw [askedAmong, unfilledPlaces, refresh_hooks, refresh_places]
  rfl

theorem fillCalls_refresh (table : Table) :
    table.refresh.fillCalls = table.fillCalls ++
      (table.refresh.askedAmong table.content).filterMap fun place =>
        table.content[place]?.map Record.id := by
  rw [fillCalls, refresh_journal, List.filterMap_append, List.filterMap_append,
    filterMap_filled?_fillNotices, askedAmong_refresh]
  exact List.append_nil _

theorem nodup_askedAmong_refresh (table : Table) (records : List Record) :
    (table.refresh.askedAmong records).Nodup := by
  have ascending := table.pairwise_filtered_refilter
  rw [← refresh_filtered] at ascending
  have nodup : table.refresh.filtered.Nodup := ascending.imp Nat.ne_of_lt
  have onPage : (table.refresh.pageSpan.of table.refresh.filtered).Nodup :=
    (nodup.sublist (List.take_sublist _ _)).sublist (List.drop_sublist _ _)
  unfold askedAmong
  split
  · exact onPage.filter _
  · exact List.nodup_nil

theorem fills_refresh {before : Table} (changed : Table) (hooks : changed.hooks = before.hooks)
    (calls : changed.fillCalls = before.fillCalls) :
    Fills before changed.content changed.refresh where
  content := by
    intro place
    rw [refresh_content, getElem?_filledContent, refresh_places, ← hooks]
    rfl
  nodup := changed.nodup_askedAmong_refresh changed.content
  calls := by rw [fillCalls_refresh, calls]
  refreshed := fun _ => ⟨changed, [], by rw [note, List.append_nil], calls, rfl⟩

theorem Fills.note {before after : Table} {records : List Record}
    (fills : Fills before records after) {notices : List Notice}
    (quiet : notices.filterMap Notice.filled? = []) :
    Fills before records (after.note notices) where
  content := fills.content
  nodup := fills.nodup
  calls := by
    rw [fillCalls_note, quiet, List.append_nil, fills.calls]
    rfl
  refreshed := by
    intro missing
    rcases fills.refreshed missing with ⟨changed, first, rfl, calls, firstQuiet⟩
    refine ⟨changed, first ++ notices, ?_, calls, ?_⟩
    · rw [Table.note, Table.note, Table.note, List.append_assoc]
    · rw [List.filterMap_append, firstQuiet, quiet, List.append_nil]

theorem PageFilled.askedAmong_eq_nil {table : Table} (filled : table.PageFilled) :
    table.askedAmong table.content = [] := by
  have none : table.unfilledPlaces table.content = [] := by
    apply List.filter_eq_nil_iff.mpr
    intro place shown missing
    rcases (Option.any_eq_true _ _).mp missing with ⟨record, known, none⟩
    have some := filled record (List.mem_filterMap.mpr ⟨place, shown, known⟩)
    rw [Option.isNone_iff_eq_none.mp none] at some
    cases some
  rw [askedAmong, none, ite_self]

theorem fills_untouched {table : Table} (filled : table.PageFilled) (gesture : Gesture)
    (pending : Option (List Record)) :
    Fills table table.content { table with gesture, pending } where
  content := by
    intro place
    cases known : table.content[place]? with
    | none => rfl
    | some record =>
        refine congrArg some ?_
        split
        · next shown =>
          have cells := filled record (List.mem_filterMap.mpr ⟨place, shown, known⟩)
          exact (record.fill_of_isSome _ cells).symm
        · rfl
  nodup := by
    change (table.askedAmong table.content).Nodup
    rw [filled.askedAmong_eq_nil]
    exact List.nodup_nil
  calls := by
    change table.fillCalls = table.fillCalls ++ (table.askedAmong table.content).filterMap _
    rw [filled.askedAmong_eq_nil, List.filterMap_nil, List.append_nil]
  refreshed := fun missing => absurd filled.askedAmong_eq_nil missing

/-! ## Cells that are forgotten -/

theorem getElem?_forgetCells (id : RecordId) (records : List Record) (place : Nat) :
    (forgetCells id records)[place]? = records[place]?.map fun record =>
      if (records.map Record.id).idxOf? id = some place then { record with cells := none }
      else record := by
  induction records generalizing place with
  | nil => rfl
  | cons record rest induction =>
      rw [forgetCells, List.map_cons, List.idxOf?_cons]
      by_cases same : record.id = id
      · rw [if_pos same]
        cases place with
        | zero => simp [same]
        | succ place => simp [same]
      · rw [if_neg same]
        cases place with
        | zero => simp [same]
        | succ place => simp [same, induction]

theorem forgetCells_eq_self {id : RecordId} {records : List Record}
    (absent : id ∉ records.map Record.id) : forgetCells id records = records := by
  apply List.ext_getElem?
  intro place
  rw [getElem?_forgetCells, List.idxOf?_eq_none_iff.mpr absent]
  simp

theorem getElem?_forget (operation : Operation) (records : List Record) (place : Nat) :
    (operation.forget records)[place]? = records[place]?.map fun record =>
      if operation.invalidated?.bind (records.map Record.id).idxOf? = some place then
        { record with cells := none }
      else record := by
  unfold Operation.forget
  cases operation.invalidated? with
  | none => simp
  | some id => exact getElem?_forgetCells id records place

theorem forget_of_other {operation : Operation} (other : operation.invalidated? = none)
    (records : List Record) : operation.forget records = records := by
  rw [Operation.forget, other]
  rfl

/-! ## One operation -/

section

variable {table : Table} {operation : Operation}

theorem endedDrag?_of_idle (idle : table.isDragging = false) :
    table.endedDrag? operation = none := by
  have nothing : table.gesture.drag? = none :=
    Option.not_isSome_iff_eq_none.mp (Bool.eq_false_iff.mp idle)
  rw [endedDrag?, nothing]
  exact ite_self _

theorem endedDrag?_of_same (same : (table.perform operation).2.isDragging = table.isDragging) :
    table.endedDrag? operation = none := by
  cases dragging : table.isDragging with
  | true => rw [endedDrag?, same, dragging, if_pos rfl]
  | false => exact endedDrag?_of_idle dragging

/-- Where no drag ends, content comes with updates only and nothing moves. -/
theorem carried_of_none (none : table.endedDrag? operation = none) :
    (table.carried operation).map Prod.fst = operation.forget
      ((if table.isDragging then .none else operation.update?).getD table.content) := by
  have still : table.move? operation = .none := by
    rw [move?, none]
    exact ite_self _
  rw [carried, map_fst_tracked, still, brought, arrival?, none]
  rfl

theorem carried_of_kept (none : table.endedDrag? operation = none)
    (noUpdate : operation.update? = .none) :
    (table.carried operation).map Prod.fst = operation.forget table.content := by
  rw [carried_of_none none, noUpdate, ite_self]
  rfl

/-- At the end of a drag what has waited is put in place, and then moved. -/
theorem carried_of_ended {drag : Drag} (held : table.gesture.drag? = some drag)
    (idle : (table.perform operation).2.isDragging = false) :
    (table.carried operation).map Prod.fst =
      moved (if operation.lifts then drag.target.map (Move.mk drag.moving) else none)
        (operation.forget (table.pending.getD table.content)) := by
  have ended : table.endedDrag? operation = some drag := by
    rw [endedDrag?, idle, held]
    rfl
  have dragging : table.isDragging = true := congrArg Option.isSome held
  rw [carried, map_fst_tracked, move?, brought, arrival?, ended, dragging]
  rfl

end

theorem invalidate_fills {table : Table} (filled : table.PageFilled) (id : RecordId) :
    Fills table ((table.carried (.invalidate id)).map Prod.fst)
      (table.perform (.invalidate id)).2 := by
  have same : (table.perform (.invalidate id)).2.isDragging = table.isDragging := by
    change (table.invalidate id).isDragging = table.isDragging
    unfold invalidate
    split
    · exact refresh_isDragging _
    · rfl
  rw [carried_of_kept (endedDrag?_of_same same) rfl]
  change Fills table (forgetCells id table.content) (table.invalidate id)
  unfold invalidate
  split
  · exact fills_refresh { table with content := forgetCells id table.content } rfl rfl
  · next absent =>
    rw [forgetCells_eq_self absent]
    exact fills_untouched filled table.gesture table.pending

theorem finishCancelled_fills (table : Table) :
    Fills table (table.pending.getD table.content)
      { table with gesture := .idle }.finishCancelled := by
  let settled : Table := ({ table with gesture := .idle }.note [.dragCancelled]).takePending
  have calls : settled.fillCalls = table.fillCalls :=
    (fillCalls_note { table with gesture := .idle } [.dragCancelled]).trans (List.append_nil _)
  exact fills_refresh settled rfl calls

theorem finishDrop_fills (table : Table) (move : Option Move) :
    Fills table (moved move (table.pending.getD table.content))
      ({ table with gesture := .idle }.finishDrop move) := by
  let base := table.pending.getD table.content
  let settled : Table :=
    { table with gesture := .idle, content := moved move base, pending := none }
  have calls : (settled.note [.dragEnded (reportOf move base)]).fillCalls = table.fillCalls :=
    (fillCalls_note settled _).trans (List.append_nil _)
  rw [finishDrop_eq]
  exact fills_refresh (settled.note _) rfl calls

theorem Effect.fills {table after : Table} {operation : Operation}
    (effect : Effect table operation after) (performed : (table.perform operation).2 = after)
    (other : operation.invalidated? = none) (filled : table.PageFilled) :
    Fills table ((table.carried operation).map Prod.fst) after := by
  have kept (none : table.endedDrag? operation = none) (noUpdate : operation.update? = .none) :
      (table.carried operation).map Prod.fst = table.content := by
    rw [carried_of_kept none noUpdate, forget_of_other other]
  cases effect with
  | refreshed changed notices changes told =>
      have calls : changed.fillCalls = table.fillCalls := by
        rw [fillCalls, changes.journal, fillCalls]
      have quiet : notices.filterMap Notice.filled? = [] :=
        Notice.filterMap_of_isFilter (fun _ => rfl) rfl told
      have none : table.endedDrag? operation = none := by
        apply endedDrag?_of_same
        rw [performed]
        exact changed.refresh_isDragging.trans (isDragging_congr changes.grip)
      have brings : (table.carried operation).map Prod.fst = changed.content := by
        rcases changes.content with ⟨noUpdate, content⟩ | ⟨update, idle⟩
        · rw [kept none noUpdate, content, forget_of_other other]
        · rw [carried_of_none none, forget_of_other other, idle, update]
          rfl
      rw [brings]
      exact (fills_refresh changed changes.hooks calls).note quiet
  | touched gesture grip noUpdate =>
      have none : table.endedDrag? operation = none := by
        apply endedDrag?_of_same
        rw [performed]
        exact isDragging_congr grip
      rw [kept none noUpdate]
      exact fills_untouched filled gesture table.pending
  | deferred records update dragging =>
      have none : table.endedDrag? operation = none := by
        apply endedDrag?_of_same
        rw [performed]
        rfl
      have brings : (table.carried operation).map Prod.fst = table.content := by
        rw [carried_of_none none, forget_of_other other, dragging]
        rfl
      rw [brings]
      exact fills_untouched filled table.gesture (some records)
  | started row pointer origin armed gesture grip noUpdate =>
      have idle : table.isDragging = false := congrArg Gesture.isDragging armed
      rw [kept (endedDrag?_of_idle idle) noUpdate]
      exact (fills_untouched filled gesture table.pending).note rfl
  | cancelled dragging noUpdate noLift =>
      obtain ⟨drag, held⟩ := Option.isSome_iff_exists.mp dragging
      have idle : (table.perform operation).2.isDragging = false := by
        rw [performed, finishCancelled_isDragging]
        rfl
      rw [carried_of_ended held idle, noLift, forget_of_other other]
      exact table.finishCancelled_fills
  | dropped drag held noUpdate lifts =>
      have idle : (table.perform operation).2.isDragging = false := by
        rw [performed, finishDrop_isDragging]
        rfl
      rw [carried_of_ended (congrArg Gesture.drag? held) idle, lifts, forget_of_other other]
      exact table.finishDrop_fills _

theorem perform_fills {table : Table} (filled : table.PageFilled) (operation : Operation) :
    Fills table ((table.carried operation).map Prod.fst) (table.perform operation).2 := by
  cases known : operation.invalidated? with
  | none => exact (table.perform_effect operation).fills rfl known filled
  | some id =>
      cases operation with
      | invalidate id => exact invalidate_fills filled id
      | _ => cases known

/-! ## Runs -/

theorem PageFilled.perform {table : Table} (filled : table.PageFilled) (operation : Operation) :
    (table.perform operation).2.PageFilled := by
  have outcome := table.perform_outcome operation
  generalize (table.perform operation).2 = after at outcome
  cases outcome with
  | refreshed changed => exact changed.isSome_cells_pageRecords_refresh
  | untouched => exact filled

theorem pageFilled_run (options : TableOptions) (hooks : Hooks) (operations : List Operation) :
    (run { options, hooks } operations).PageFilled := by
  have new : PageFilled { options, hooks } := by
    intro record member
    cases member
  exact run_keeps PageFilled new operations fun _ filled operation _ => filled.perform operation

/-! ## The life of a record -/

inductive CellEvent where
  | asked
  | forgotten
deriving DecidableEq, Repr

namespace CellEvent

/-- Whether cells are asked for only where they are not known. -/
def InTurn (known : Bool) : List CellEvent → Prop
  | [] => True
  | .asked :: events => known = false ∧ InTurn true events
  | .forgotten :: events => InTurn false events

variable {known : Bool} {before later : List CellEvent}

theorem InTurn.of_imp {other : Bool} {events : List CellEvent}
    (imp : known = true → other = true) (inTurn : InTurn other events) :
    InTurn known events := by
  cases events with
  | nil => trivial
  | cons event events =>
      cases event with
      | asked =>
          have unknown := Bool.eq_false_iff.mp inTurn.1
          exact ⟨Bool.eq_false_iff.mpr fun yes => unknown (imp yes), inTurn.2⟩
      | forgotten => exact inTurn

theorem InTurn.after_asked (inTurn : InTurn known (before ++ .asked :: later)) :
    InTurn true later := by
  induction before generalizing known with
  | nil => exact inTurn.2
  | cons event before induction =>
      cases event with
      | asked => exact induction inTurn.2
      | forgotten => exact induction inTurn

theorem InTurn.forgotten_mem (inTurn : InTurn true (before ++ .asked :: later)) :
    .forgotten ∈ before := by
  cases before with
  | nil => cases inTurn.1
  | cons event before =>
      cases event with
      | asked => cases inTurn.1
      | forgotten => exact List.mem_cons_self

end CellEvent

def forgotten? (table : Table) (operation : Operation) : Option Nat :=
  operation.invalidated?.bind ((table.brought operation).map Record.id).idxOf?

def cellEvents (table : Table) (operation : Operation) (place : Nat) : List CellEvent :=
  (if table.forgotten? operation = some place then [.forgotten] else []) ++
    if table.destination operation place ∈ table.askedPlaces operation then [.asked] else []

/-- What becomes of the cells of the record at a place, until other content comes. -/
def life (table : Table) (place : Nat) : List Operation → List CellEvent
  | [] => []
  | operation :: operations =>
    if (table.arrival? operation).isSome then []
    else
      table.cellEvents operation place ++
        (table.perform operation).2.life (table.destination operation place) operations

theorem mem_askedPlaces_iff {table : Table} {operation : Operation} {place : Nat} :
    place ∈ table.askedPlaces operation ↔
      (table.perform operation).2.hooks.fill.isSome = true ∧
        place ∈ (table.perform operation).2.pageSpan.of (table.perform operation).2.filtered ∧
        ∃ record origin, (table.carried operation)[place]? = some (record, origin) ∧
          record.cells = none := by
  have missing : (((table.carried operation).map Prod.fst)[place]?.any
        fun record => record.cells.isNone) = true ↔
      ∃ record origin, (table.carried operation)[place]? = some (record, origin) ∧
        record.cells = none := by
    rw [List.getElem?_map, Option.any_map, Option.any_eq_true]
    constructor
    · rintro ⟨⟨record, origin⟩, found, none⟩
      exact ⟨record, origin, found, Option.isNone_iff_eq_none.mp none⟩
    · rintro ⟨record, origin, found, none⟩
      exact ⟨(record, origin), found, Option.isNone_iff_eq_none.mpr none⟩
  unfold askedPlaces askedAmong
  split
  · next asks => rw [unfilledPlaces, List.mem_filter, missing, and_iff_right asks]
  · next silent => simp [silent]

/-- A record is handed on with its cells, unless these have been forgotten. -/
theorem getElem?_carried_destination {table : Table} {operation : Operation} {place : Nat}
    {record : Record} (here : (table.brought operation)[place]? = some record) :
    (table.carried operation)[table.destination operation place]? =
      some
        ({ record with
            cells := if table.forgotten? operation = some place then none else record.cells },
          place) := by
  apply getElem?_tracked_idxOf
  rw [getElem?_forget, here, Option.map_some]
  congr 1
  unfold forgotten?
  split
  · rfl
  · rfl

/-- An operation moves a record and changes no more than its cells, for which the
owner is asked only where they are not known. -/
theorem exists_shown {table : Table} (filled : table.PageFilled) (operation : Operation)
    {place : Nat} {record : Record} (here : (table.brought operation)[place]? = some record) :
    ∃ cells, (table.perform operation).2.content[table.destination operation place]? =
        some { record with cells } ∧
      ∀ later, CellEvent.InTurn cells.isSome later →
        CellEvent.InTurn record.cells.isSome (table.cellEvents operation place ++ later) := by
  have there := getElem?_carried_destination here
  generalize handed : (if table.forgotten? operation = some place then none
    else record.cells) = kept at there
  obtain ⟨cells, content, known⟩ : ∃ cells,
      (table.perform operation).2.content[table.destination operation place]? =
        some { record with cells } ∧
      (kept.isSome = true ∨ table.destination operation place ∈
        (table.perform operation).2.pageSpan.of (table.perform operation).2.filtered →
          cells.isSome = true) := by
    rw [(perform_fills filled operation).content, List.getElem?_map, there, Option.map_some,
      Option.map_some]
    split
    · rcases Record.fill_eq table.hooks { record with cells := kept } with ⟨cells, equal⟩
      exact ⟨some cells, congrArg some equal, fun _ => rfl⟩
    · next hidden => exact ⟨kept, rfl, fun either => either.resolve_right hidden⟩
  refine ⟨cells, content, ?_⟩
  intro later inTurn
  have asked : CellEvent.InTurn kept.isSome
      ((if table.destination operation place ∈ table.askedPlaces operation then
        [CellEvent.asked] else []) ++ later) := by
    split
    · next asks =>
      rcases mem_askedPlaces_iff.mp asks with ⟨_, shown, _, _, found, none⟩
      rw [there] at found
      cases found
      rw [known (Or.inr shown)] at inTurn
      exact ⟨congrArg Option.isSome none, inTurn⟩
    · exact inTurn.of_imp fun yes => known (Or.inl yes)
  rw [cellEvents, List.append_assoc]
  subst handed
  split at asked
  · next forgot =>
    rw [if_pos forgot]
    exact asked
  · next kept =>
    rw [if_neg kept]
    exact asked

theorem life_inTurn {table : Table} (filled : table.PageFilled) (operations : List Operation)
    {place : Nat} {record : Record} (here : table.content[place]? = some record) :
    CellEvent.InTurn record.cells.isSome (table.life place operations) := by
  induction operations generalizing table place record with
  | nil => trivial
  | cons operation operations induction =>
      rw [life]
      split
      · trivial
      · next kept =>
        have brought : table.brought operation = table.content := by
          rw [brought, Option.not_isSome_iff_eq_none.mp kept]
          rfl
        rw [← brought] at here
        rcases exists_shown filled operation here with ⟨cells, there, inTurn⟩
        exact inTurn _ (induction (filled.perform operation) there)

/-- Whether the owner is asked for the cells of a record at most once, from the
operation on that has brought it. -/
structure AsksOnce (table : Table) (operation : Operation) (after : Table) : Prop where
  fills : Fills table ((table.carried operation).map Prod.fst) after
  asked : ∀ place ∈ table.askedPlaces operation, ∃ record origin,
    (table.carried operation)[place]? = some (record, origin) ∧ record.cells = none ∧
    place ∈ after.pageSpan.of after.filtered ∧ table.destination operation origin = place
  kept : ∀ place record, (table.brought operation)[place]? = some record →
    ∃ cells, after.content[table.destination operation place]? = some { record with cells }
  life : ∀ records place record further, table.arrival? operation = some records →
    records[place]? = some record →
    let life := table.cellEvents operation place ++
      after.life (table.destination operation place) further
    (∀ before between later, life = before ++ .asked :: between ++ .asked :: later →
      .forgotten ∈ between) ∧
    (record.cells.isSome = true → ∀ before later, life = before ++ .asked :: later →
      .forgotten ∈ before)

/-- The owner is asked for cells in a refresh only, and for those of the records that
it shows without any. Wherever a record goes from the operation it has come with,
the owner is not asked for its cells twice unless they have been forgotten in
between, nor before that if it has come with cells. -/
theorem cells_asked_once (options : TableOptions) (hooks : Hooks) (operations : List Operation)
    (operation : Operation) :
    let table := ({ options, hooks } : Table).run operations
    AsksOnce table operation (table.perform operation).2 := by
  intro table
  let after := (table.perform operation).2
  have filled : table.PageFilled := pageFilled_run options hooks operations
  refine ⟨perform_fills filled operation, ?_, ?_, ?_⟩
  · intro place asked
    rcases mem_askedPlaces_iff.mp asked with ⟨_, shown, record, origin, found, none⟩
    exact ⟨record, origin, found, none, shown, idxOf_origin found⟩
  · intro place record here
    rcases exists_shown filled operation here with ⟨cells, there, _⟩
    exact ⟨cells, there⟩
  · intro records place record further arrival here life
    have brought : (table.brought operation)[place]? = some record := by
      rw [Table.brought, arrival]
      exact here
    rcases exists_shown filled operation brought with ⟨cells, there, inTurn⟩
    have whole : CellEvent.InTurn record.cells.isSome life :=
      inTurn _ (life_inTurn (filled.perform operation) further there)
    refine ⟨?_, ?_⟩
    · intro before between later split
      rw [split, List.append_assoc] at whole
      exact (CellEvent.InTurn.after_asked whole).forgotten_mem
    · intro known before later split
      rw [known, split] at whole
      exact whole.forgotten_mem

/-- A record comes at the end of a drag, which moves it, is shown, leaves the page and
comes back; in between its cells are forgotten. -/
theorem cells_asked_once_across_pages :
    let record (number : Int) : Record := { id := .number number, contents := .text "" }
    let hooks : Hooks := { fill := some fun record => [record.id.display] }
    let before : List Operation :=
      [.update [record 1, record 2], .setPageSize 2 none none,
        .pointerDown 0 (some (.number 1)) 0, .pointerMove 0 4 [⟨.number 2, 2, 2⟩],
        .update [record 1, record 2, { record 3 with cells := some [] }]]
    let drop : Operation := .pointerUp 0 false
    let further : List Operation :=
      [.setPage 2, .invalidate (.number 1), .setPage 1, .check (.number 1) true, .refresh]
    let table : Table := run { hooks } before
    let life := table.cellEvents drop 0 ++
      (table.perform drop).2.life (table.destination drop 0) further
    table.arrival? drop = some [record 1, record 2, { record 3 with cells := some [] }] ∧
      table.destination drop 0 = 1 ∧ life = [.asked, .forgotten, .asked] ∧
      ∀ before between later, life = before ++ .asked :: between ++ .asked :: later →
        .forgotten ∈ between := by
  intro record hooks before drop further table life
  have arrival : table.arrival? drop =
      some [record 1, record 2, { record 3 with cells := some [] }] := by
    decide +kernel
  have once := cells_asked_once {} hooks before drop
  exact ⟨arrival, by decide +kernel, by decide +kernel,
    (once.life _ 0 (record 1) further arrival rfl).1⟩

end Table

end PagedTable
