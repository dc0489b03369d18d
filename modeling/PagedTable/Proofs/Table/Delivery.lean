import Mathlib.Data.List.Induction
import PagedTable.Proofs.Table.Deferral

/-! # Content that comes and the content there is

Whatever is done to a table, its content is what came last, but for the order
in which drops have put it; or else a drag is in progress, and what came last
waits for its end. -/

namespace PagedTable.Table

/-! ## Runs

What the invariant below says of a table depends on all that was done to it, so
it is stated of the table together with those operations. -/

def lastUpdate (operations : List Operation) : Option (List Record) :=
  (operations.filterMap Operation.update?).getLast?

theorem lastUpdate_of_update (operations : List Operation) {operation : Operation}
    {records : List Record} (update : operation.update? = some records) :
    lastUpdate (operations ++ [operation]) = some records :=
  getLast?_filterMap_concat operations update

theorem lastUpdate_of_other (operations : List Operation) {operation : Operation}
    (noUpdate : operation.update? = none) :
    lastUpdate (operations ++ [operation]) = lastUpdate operations :=
  getLast?_filterMap_concat_none operations noUpdate

/-- Whether a table has got the last content, or else keeps it for later. -/
structure KeepsUp (operations : List Operation) (table : Table) : Prop where
  waits : table.pending.isSome = true → table.isDragging = true
  applied : table.pending = none →
    table.contentIds.Perm (((lastUpdate operations).getD []).map Record.id)
  kept : ∀ records : List Record, table.pending = some records →
    lastUpdate operations = some records

namespace KeepsUp

variable {operations : List Operation} {operation : Operation} {table after : Table}

theorem of_nothing_pending (pending : table.pending = none)
    (contentIds : table.contentIds.Perm (((lastUpdate operations).getD []).map Record.id)) :
    KeepsUp operations table := by
  refine ⟨?_, fun _ => contentIds, ?_⟩
  · intro waiting
    rw [pending] at waiting
    cases waiting
  · intro records waiting
    rw [pending] at waiting
    cases waiting

theorem new (options : TableOptions) (hooks : Hooks) : KeepsUp [] { options, hooks } :=
  of_nothing_pending rfl .nil

theorem pending_of_idle (keepsUp : KeepsUp operations table) (idle : table.isDragging = false) :
    table.pending = none := by
  cases known : table.pending with
  | none => rfl
  | some records =>
      have dragging : table.isDragging = true := keepsUp.waits (known ▸ rfl)
      rw [idle] at dragging
      cases dragging

/-- The content, or what will take its place, comes from the last update. -/
theorem perm_getD (keepsUp : KeepsUp operations table) :
    ((table.pending.getD table.content).map Record.id).Perm
      (((lastUpdate operations).getD []).map Record.id) := by
  cases known : table.pending with
  | none => exact keepsUp.applied known
  | some records =>
      rw [keepsUp.kept records known]
      exact .refl _

theorem step (keepsUp : KeepsUp operations table) (deferral : Deferral operation table after) :
    KeepsUp (operations ++ [operation]) after := by
  cases deferral with
  | kept noUpdate contentIds pending dragging =>
      refine ⟨?_, ?_, ?_⟩
      · intro waiting
        rw [pending] at waiting
        exact dragging (keepsUp.waits waiting)
      · intro nothing
        rw [pending] at nothing
        rw [contentIds, lastUpdate_of_other operations noUpdate]
        exact keepsUp.applied nothing
      · intro records waiting
        rw [pending] at waiting
        rw [lastUpdate_of_other operations noUpdate]
        exact keepsUp.kept records waiting
  | applied records update idle stillIdle contentIds pending =>
      rw [keepsUp.pending_of_idle idle] at pending
      refine of_nothing_pending pending ?_
      rw [contentIds, lastUpdate_of_update operations update]
      exact .refl _
  | deferred records update dragging stillDragging contentIds pending =>
      refine ⟨?_, ?_, ?_⟩
      · intro waiting
        exact stillDragging
      · intro nothing
        rw [pending] at nothing
        cases nothing
      · intro others waiting
        rw [pending] at waiting
        cases waiting
        exact lastUpdate_of_update operations update
  | ended noUpdate dragging idle pending contentIds =>
      -- what waited, or else the content, is what came last
      refine of_nothing_pending pending ?_
      rw [lastUpdate_of_other operations noUpdate]
      exact contentIds.trans keepsUp.perm_getD

theorem run (keepsUp : KeepsUp operations table) (further : List Operation) :
    KeepsUp (operations ++ further) (table.run further) := by
  induction further generalizing operations table with
  | nil =>
      rw [List.append_nil]
      exact keepsUp
  | cons operation further induction =>
      rw [List.append_cons]
      exact induction (keepsUp.step (table.perform_deferral operation))

end KeepsUp

/-! ## One drag from its start on -/

structure IsDrag (table : Table) (start : Operation) (during : List Operation) : Prop where
  idle : table.isDragging = false
  dragging : ∀ first : List Operation, first <+: during →
    (table.run (start :: first)).isDragging = true

theorem isDrag_iff {table : Table} {start : Operation} {during : List Operation} :
    IsDrag table start during ↔ table.isDragging = false ∧
      ∀ count < during.length + 1, (table.run (start :: during.take count)).isDragging = true := by
  constructor
  · intro drag
    refine ⟨drag.idle, ?_⟩
    intro count within
    exact drag.dragging _ (during.take_prefix count)
  · rintro ⟨idle, dragging⟩
    refine ⟨idle, ?_⟩
    intro first initial
    have within : first.length < during.length + 1 := Nat.lt_succ_of_le initial.length_le
    have known := dragging first.length within
    rw [← List.prefix_iff_eq_take.mp initial] at known
    exact known

instance (table : Table) (start : Operation) (during : List Operation) :
    Decidable (IsDrag table start during) :=
  decidable_of_iff' _ isDrag_iff

structure HoldsBack (before : Table) (during : List Operation) (table : Table) : Prop where
  dragging : table.isDragging = true
  contentIds : table.contentIds = before.contentIds
  pending : table.pending = lastUpdate during

namespace HoldsBack

variable {before table after : Table} {operation : Operation} {during : List Operation}

theorem start (idle : before.isDragging = false) (pending : before.pending = none)
    (deferral : Deferral operation before after) (dragging : after.isDragging = true) :
    HoldsBack before [] after := by
  cases deferral with
  | kept noUpdate contentIds stillPending =>
      exact ⟨dragging, contentIds, stillPending.trans pending⟩
  | applied records update before stillIdle =>
      rw [stillIdle] at dragging
      cases dragging
  | deferred records update beforeDragging =>
      rw [idle] at beforeDragging
      cases beforeDragging
  | ended noUpdate beforeDragging =>
      rw [idle] at beforeDragging
      cases beforeDragging

theorem step (holdsBack : HoldsBack before during table)
    (deferral : Deferral operation table after) (dragging : after.isDragging = true) :
    HoldsBack before (during ++ [operation]) after := by
  cases deferral with
  | kept noUpdate contentIds pending =>
      refine ⟨dragging, contentIds.trans holdsBack.contentIds, ?_⟩
      rw [lastUpdate_of_other during noUpdate, pending, holdsBack.pending]
  | applied records update idle =>
      rw [holdsBack.dragging] at idle
      cases idle
  | deferred records update stillDragging anyway contentIds pending =>
      refine ⟨dragging, contentIds.trans holdsBack.contentIds, ?_⟩
      rw [lastUpdate_of_update during update, pending]
  | ended noUpdate stillDragging idle =>
      rw [idle] at dragging
      cases dragging

end HoldsBack

theorem IsDrag.holdsBack {table : Table} {start : Operation} {during : List Operation}
    (drag : IsDrag table start during) (pending : table.pending = none) :
    HoldsBack table during (table.run (start :: during)) := by
  -- from the end of the drag, since what has come so far grows there
  have each (first : List Operation) (initial : first <+: during) :
      HoldsBack table first (table.run (start :: first)) := by
    induction first using List.reverseRecOn with
    | nil =>
        exact .start drag.idle pending (table.perform_deferral start) (drag.dragging [] initial)
    | append_singleton first operation induction =>
        have holdsBack := induction ((List.prefix_append first [operation]).trans initial)
        have dragging := drag.dragging (first ++ [operation]) initial
        rw [← List.cons_append, run_append] at dragging ⊢
        exact holdsBack.step (perform_deferral _ operation) dragging
  exact each during (List.prefix_refl during)

/-! ## A drag called off -/

def Operation.cancels : Operation → Bool
  | .cancelDrag => true
  | .shortcut .abort => true
  | .pointerDown _ _ _ => true
  | _ => false

theorem perform_of_cancels {table : Table} (dragging : table.isDragging = true)
    {operation : Operation} (cancels : operation.cancels = true) :
    (table.perform operation).2 = { table with gesture := .idle }.finishCancelled := by
  cases operation with
  | cancelDrag => exact cancelDrag_of_dragging dragging
  | shortcut shortcut =>
      cases shortcut with
      | abort => exact cancelDrag_of_dragging dragging
      | _ => cases cancels
  | pointerDown pointer row line => exact pointerDown_of_dragging dragging pointer row line
  | _ => cases cancels

/-- Nothing that came is lost, comes early or comes twice: content waits only
during a drag; without a drag the content is what came last, but for its order;
until a drag ends the content keeps its order; and a drag that is called off
leaves what came last during it, as it came, or else the content as it was. -/
theorem no_update_lost (options : TableOptions) (hooks : Hooks) (operations : List Operation) :
    let table := ({ options, hooks } : Table).run operations
    (table.pending.isSome = true → table.isDragging = true) ∧
    (table.isDragging = false →
      table.contentIds.Perm (((lastUpdate operations).getD []).map Record.id)) ∧
    ∀ (start : Operation) (during : List Operation), IsDrag table start during →
      let dragged := table.run (start :: during)
      dragged.contentIds = table.contentIds ∧
      ∀ cancel : Operation, cancel.cancels = true →
        let ended := (dragged.perform cancel).2
        ended.isDragging = false ∧ ended.pending = none ∧
        List.Forall₂ (Record.IsShown hooks) ((lastUpdate during).getD dragged.content)
          ended.content := by
  intro table
  have keepsUp : KeepsUp operations table := (KeepsUp.new options hooks).run operations
  refine ⟨keepsUp.waits, ?_, ?_⟩
  · intro idle
    exact keepsUp.applied (keepsUp.pending_of_idle idle)
  · intro start during drag dragged
    have holdsBack := drag.holdsBack (keepsUp.pending_of_idle drag.idle)
    refine ⟨holdsBack.contentIds, ?_⟩
    intro cancel cancels
    have sameHooks : dragged.hooks = hooks :=
      (hooks_run table _).trans (hooks_run _ operations)
    rw [perform_of_cancels holdsBack.dragging cancels, ← holdsBack.pending, ← sameHooks]
    refine ⟨?_, ?_, ?_⟩
    · exact finishCancelled_isDragging _
    · exact finishCancelled_pending _
    · exact finishCancelled_content { dragged with gesture := .idle }

/-- Two lists come during a drag; a second pointer calls it off. -/
theorem no_update_lost_second_pointer :
    let record (number : Int) : Record := { id := .number number, contents := .text "" }
    let before : List Operation :=
      [.update [record 1, record 2, record 3], .pointerDown 0 (some (.number 2)) 0]
    let start : Operation := .pointerMove 0 4 [⟨.number 3, 4, 2⟩]
    let during : List Operation :=
      [.update [record 4], .setPageSize 1 none none, .update [record 3, record 5],
        .invalidate (.number 1)]
    let cancel : Operation := .pointerDown 1 none 0
    let table : Table := run {} before
    let ended := ((table.run (start :: during)).perform cancel).2
    IsDrag table start during ∧ cancel.cancels = true ∧
      (table.run (start :: during)).contentIds = table.contentIds ∧
      ended.pending = none ∧
      List.Forall₂ (Record.IsShown {}) [record 3, record 5] ended.content := by
  intro record before start during cancel table ended
  have drag : IsDrag table start during := by decide +kernel
  have cancels : cancel.cancels = true := rfl
  rcases no_update_lost {} {} before with ⟨_, _, drags⟩
  rcases drags start during drag with ⟨sameIds, called⟩
  rcases called cancel cancels with ⟨_, nothing, shown⟩
  exact ⟨drag, cancels, sameIds, nothing, shown⟩

end PagedTable.Table
