import Mathlib.Data.List.Forall2
import PagedTable.Proofs.Gesture.Move
import PagedTable.Proofs.Table.Operation

/-! # Content that waits

An operation does one of four things about the content: it leaves alone both the
content and what waits, it replaces the one or the other, or it ends a drag and
puts what waits in place. -/

namespace PagedTable

/-! ## Content and the cells kept with it -/

/-- Whether a record is the given one, but that its cells may have been filled. -/
def Record.IsShown (hooks : Hooks) (given shown : Record) : Prop :=
  shown = given ∨ shown = given.fill hooks

namespace Table

theorem forall₂_filledContent (table : Table) :
    List.Forall₂ (Record.IsShown table.hooks) table.content table.filledContent := by
  unfold filledContent
  generalize table.content = records
  generalize (0 : Nat) = first
  induction records generalizing first with
  | nil => exact .nil
  | cons record records induction =>
      rw [List.zipIdx_cons, List.map_cons]
      refine .cons ?_ (induction (first + 1))
      dsimp only
      split
      · exact Or.inr rfl
      · exact Or.inl rfl

theorem forall₂_refresh_content (table : Table) :
    List.Forall₂ (Record.IsShown table.hooks) table.content table.refresh.content := by
  rw [refresh_content]
  exact table.paged.forall₂_filledContent

/-! ## One operation -/

inductive Deferral (operation : Operation) (before after : Table) : Prop
  | kept (noUpdate : operation.update? = none) (contentIds : after.contentIds = before.contentIds)
      (pending : after.pending = before.pending)
      (dragging : before.isDragging = true → after.isDragging = true)
  | applied (records : List Record) (update : operation.update? = some records)
      (idle : before.isDragging = false) (stillIdle : after.isDragging = false)
      (contentIds : after.contentIds = records.map Record.id)
      (pending : after.pending = before.pending)
  | deferred (records : List Record) (update : operation.update? = some records)
      (dragging : before.isDragging = true) (stillDragging : after.isDragging = true)
      (contentIds : after.contentIds = before.contentIds)
      (pending : after.pending = some records)
  | ended (noUpdate : operation.update? = none) (dragging : before.isDragging = true)
      (idle : after.isDragging = false) (pending : after.pending = none)
      (contentIds : after.contentIds.Perm
        ((before.pending.getD before.content).map Record.id))

namespace Deferral

variable {table : Table} {operation : Operation}

theorem of_refresh (changed : Table) (noUpdate : operation.update? = none)
    (contentIds : changed.contentIds = table.contentIds)
    (pending : changed.pending = table.pending)
    (dragging : table.isDragging = true → changed.isDragging = true) :
    Deferral operation table changed.refresh := by
  refine .kept noUpdate ?_ ?_ ?_
  · rw [refresh_contentIds, contentIds]
  · rw [refresh_pending, pending]
  · intro before
    rw [refresh_isDragging]
    exact dragging before

theorem note {after : Table} (deferral : Deferral operation table after)
    (notices : List Notice) : Deferral operation table (after.note notices) := by
  cases deferral with
  | kept noUpdate contentIds pending dragging =>
      exact .kept noUpdate contentIds pending dragging
  | applied records update idle stillIdle contentIds pending =>
      exact .applied records update idle stillIdle contentIds pending
  | deferred records update dragging stillDragging contentIds pending =>
      exact .deferred records update dragging stillDragging contentIds pending
  | ended noUpdate dragging idle pending contentIds =>
      exact .ended noUpdate dragging idle pending contentIds

end Deferral

/-! ### Ways out of a drag -/

theorem finishCancelled_isDragging (table : Table) :
    table.finishCancelled.isDragging = table.isDragging :=
  refresh_isDragging _

theorem finishCancelled_pending (table : Table) : table.finishCancelled.pending = none :=
  refresh_pending _

theorem finishCancelled_content (table : Table) :
    List.Forall₂ (Record.IsShown table.hooks) (table.pending.getD table.content)
      table.finishCancelled.content :=
  forall₂_refresh_content (table.note [.dragCancelled]).takePending

theorem finishCancelled_contentIds (table : Table) :
    table.finishCancelled.contentIds = (table.pending.getD table.content).map Record.id :=
  refresh_contentIds _

theorem finishDrop_isDragging (table : Table) (move : Option Move) :
    (table.finishDrop move).isDragging = table.isDragging :=
  refresh_isDragging _

theorem finishDrop_pending (table : Table) (move : Option Move) :
    (table.finishDrop move).pending = none :=
  refresh_pending _

theorem finishDrop_contentIds (table : Table) (move : Option Move) :
    (table.finishDrop move).contentIds.Perm
      ((table.pending.getD table.content).map Record.id) := by
  unfold finishDrop
  rw [refresh_contentIds]
  apply List.Perm.map
  change List.Perm (Option.getD (Option.map _ (move.filter _)) _) _
  -- a move without effect counts as none
  cases move.filter fun move => move.changes Record.id table.takePending.content with
  | none => exact .refl _
  | some effective => exact effective.perm_apply Record.id _

namespace Deferral

variable {table : Table} {operation : Operation}

theorem of_finishCancelled (noUpdate : operation.update? = none)
    (dragging : table.isDragging = true) :
    Deferral operation table { table with gesture := .idle }.finishCancelled := by
  refine .ended noUpdate dragging ?_ ?_ ?_
  · exact finishCancelled_isDragging _
  · exact finishCancelled_pending _
  · exact .of_eq (finishCancelled_contentIds _)

theorem of_finishDrop (noUpdate : operation.update? = none)
    (dragging : table.isDragging = true) (move : Option Move) :
    Deferral operation table ({ table with gesture := .idle }.finishDrop move) := by
  refine .ended noUpdate dragging ?_ ?_ ?_
  · exact finishDrop_isDragging _ move
  · exact finishDrop_pending _ move
  · exact finishDrop_contentIds _ move

end Deferral

theorem Effect.deferral {table after : Table} {operation : Operation}
    (effect : Effect table operation after) : Deferral operation table after := by
  cases effect with
  | refreshed changed notices changes =>
      have dragging : changed.isDragging = table.isDragging := isDragging_congr changes.grip
      have pending := changes.pending
      apply Deferral.note
      rcases changes.content with ⟨noUpdate, content⟩ | ⟨update, idle⟩
      · exact .of_refresh changed noUpdate (contentIds_eq_of_forget content) pending dragging.trans
      · refine .applied changed.content update idle ?_ ?_ ?_
        · rw [refresh_isDragging, dragging, idle]
        · rw [refresh_contentIds, contentIds]
        · rw [refresh_pending, pending]
  | touched gesture grip noUpdate =>
      have same : { table with gesture }.isDragging = table.isDragging := isDragging_congr grip
      exact .kept noUpdate rfl rfl same.trans
  | deferred records update dragging =>
      exact .deferred records update dragging dragging rfl rfl
  | started row pointer origin armed gesture grip noUpdate =>
      refine .kept noUpdate rfl rfl ?_
      intro dragging
      rw [isDragging, armed] at dragging
      cases dragging
  | cancelled dragging noUpdate => exact .of_finishCancelled noUpdate dragging
  | dropped drag held noUpdate =>
      exact .of_finishDrop noUpdate (congrArg Gesture.isDragging held) _

theorem perform_deferral (table : Table) (operation : Operation) :
    Deferral operation table (table.perform operation).2 :=
  (table.perform_effect operation).deferral

end Table

end PagedTable
