import Mathlib.Data.List.Nodup
import PagedTable.Gesture.Drag

/-! # Drags go on

Neither a pointer that moves, nor a timer, nor rows that move end a drag. The
rows it moves and the pointer that holds them stay the same throughout. Nor do
they arm a gesture: only a pointer that goes down does. -/

namespace PagedTable

structure Grip where
  moving : List RecordId
  pointer : Nat
deriving DecidableEq, Repr

namespace Gesture

def grip? (gesture : Gesture) : Option Grip :=
  gesture.drag?.map fun drag => ⟨drag.moving, drag.pointer⟩

theorem isDragging_eq_isSome_grip? (gesture : Gesture) :
    gesture.isDragging = gesture.grip?.isSome :=
  Option.isSome_map.symm

theorem grip?_of_isDragging_eq_false {gesture : Gesture} (idle : gesture.isDragging = false) :
    gesture.grip? = none := by
  rw [isDragging_eq_isSome_grip?] at idle
  exact Option.isNone_iff_eq_none.mp (Option.isSome_eq_false_iff.mp idle)

def aim? (gesture : Gesture) : Option (Option Target × Int) :=
  gesture.drag?.map fun drag => (drag.target, drag.pointerLine)

theorem aim?_of_isDragging_eq_false {gesture : Gesture} (idle : gesture.isDragging = false) :
    gesture.aim? = none := by
  rw [aim?, Option.isNone_iff_eq_none.mp (Option.isSome_eq_false_iff.mp idle)]
  rfl

/-- A pointer that moves either turns the gesture it armed into a drag or leaves
the grip as it is. -/
theorem pointerMove_grip? (gesture : Gesture) (tuning : DragTuning) (pointer : Nat) (line : Int)
    (boxes : List RowBox) (selection : Selection) (order : List RecordId) :
    let moved := gesture.pointerMove tuning pointer line boxes selection order
    (∀ moving, moved.1 ≠ .started moving) ∧ moved.2.grip? = gesture.grip? ∨
      ∃ row origin, gesture = .armed row pointer origin ∧
        moved.1 = .started (movingFrom row selection order) ∧
        moved.2.grip? = some ⟨movingFrom row selection order, pointer⟩ := by
  cases gesture with
  | idle => exact Or.inl ⟨nofun, rfl⟩
  | armed row armedBy origin =>
      by_cases still : armedBy ≠ pointer ∨ (line - origin).natAbs < tuning.threshold
      · rw [pointerMove, if_pos still]
        exact Or.inl ⟨nofun, rfl⟩
      · obtain ⟨same, _⟩ := not_or.mp still
        rw [pointerMove, if_neg still]
        exact Or.inr ⟨row, origin, by rw [Decidable.not_not.mp same], rfl, rfl⟩
  | dragging drag =>
      by_cases other : drag.pointer ≠ pointer
      · rw [pointerMove, if_pos other]
        exact Or.inl ⟨nofun, rfl⟩
      · rw [pointerMove, if_neg other]
        exact Or.inl ⟨nofun, rfl⟩

/-- A timer changes nothing of a drag but the time of its last step. -/
theorem tick_eq (gesture : Gesture) (tuning : DragTuning) (now : Nat) (extent : Extent) :
    (gesture.tick tuning now extent).2 = gesture ∨
      ∃ drag lastScroll, gesture = .dragging drag ∧
        (gesture.tick tuning now extent).2 = .dragging { drag with lastScroll } := by
  cases gesture with
  | idle => exact Or.inl rfl
  | armed row armedBy origin => exact Or.inl rfl
  | dragging drag =>
      unfold tick
      dsimp only
      split
      · exact Or.inr ⟨drag, none, rfl, rfl⟩
      · split
        · exact Or.inl rfl
        · exact Or.inr ⟨drag, some now, rfl, rfl⟩

theorem grip?_tick (gesture : Gesture) (tuning : DragTuning) (now : Nat) (extent : Extent) :
    (gesture.tick tuning now extent).2.grip? = gesture.grip? := by
  rcases gesture.tick_eq tuning now extent with same | ⟨drag, lastScroll, held, timed⟩
  · rw [same]
  · rw [timed, held]
    rfl

theorem aim?_tick (gesture : Gesture) (tuning : DragTuning) (now : Nat) (extent : Extent) :
    (gesture.tick tuning now extent).2.aim? = gesture.aim? := by
  rcases gesture.tick_eq tuning now extent with same | ⟨drag, lastScroll, held, timed⟩
  · rw [same]
  · rw [timed, held]
    rfl

theorem grip?_retarget (gesture : Gesture) (boxes : List RowBox) :
    (gesture.retarget boxes).grip? = gesture.grip? := by
  cases gesture with
  | idle => rfl
  | armed row armedBy origin => rfl
  | dragging drag => rfl

end Gesture

structure Press where
  row : RecordId
  pointer : Nat
  line : Int
deriving DecidableEq, Repr

namespace Gesture

def press? : Gesture → Option Press
  | .armed row pointer line => some ⟨row, pointer, line⟩
  | _ => none

theorem press?_of_isDragging {gesture : Gesture} (dragging : gesture.isDragging = true) :
    gesture.press? = none := by
  cases gesture with
  | armed row pointer line => cases dragging
  | _ => rfl

theorem press?_pointerMove (gesture : Gesture) (tuning : DragTuning) (pointer : Nat) (line : Int)
    (boxes : List RowBox) (selection : Selection) (order : List RecordId) :
    ∀ press ∈ (gesture.pointerMove tuning pointer line boxes selection order).2.press?,
      gesture.press? = some press := by
  intro press pressed
  cases gesture with
  | idle => cases pressed
  | armed row armedBy origin =>
      rw [pointerMove] at pressed
      split at pressed
      · exact pressed
      · cases pressed
  | dragging drag =>
      rw [pointerMove] at pressed
      split at pressed <;> cases pressed

theorem press?_tick (gesture : Gesture) (tuning : DragTuning) (now : Nat) (extent : Extent) :
    (gesture.tick tuning now extent).2.press? = gesture.press? := by
  rcases gesture.tick_eq tuning now extent with same | ⟨drag, lastScroll, held, timed⟩
  · rw [same]
  · rw [timed, held]
    rfl

theorem press?_retarget (gesture : Gesture) (boxes : List RowBox) :
    (gesture.retarget boxes).press? = gesture.press? := by
  cases gesture <;> rfl

/-! ## What a drag moves -/

section

variable {row : RecordId} {selection : Selection} {order : List RecordId}

theorem mem_movingFrom (known : selection.isChecked row = true → row ∈ order) :
    row ∈ movingFrom row selection order := by
  unfold movingFrom
  split
  · next checked => exact List.mem_filter.mpr ⟨known checked, checked⟩
  · exact List.mem_singleton_self row

theorem nodup_movingFrom (nodup : order.Nodup) : (movingFrom row selection order).Nodup := by
  unfold movingFrom
  split
  · exact nodup.filter _
  · exact List.nodup_singleton row

theorem movingFrom_sublist (known : row ∈ order) :
    (movingFrom row selection order).Sublist order := by
  unfold movingFrom
  split
  · exact List.filter_sublist
  · exact List.singleton_sublist.mpr known

theorem movingFrom_of_unchecked (unchecked : selection.isChecked row = false) :
    movingFrom row selection order = [row] := by
  rw [movingFrom, unchecked]
  rfl

end

end Gesture

end PagedTable
