import PagedTable.Gesture.Slot
import PagedTable.Selection

/-! # Drag gestures

A pointer that goes down on a row arms a gesture. Once it has travelled far
enough the gesture becomes a drag, and when it goes up the drag ends in a drop.
Any further pointer that goes down meanwhile calls the gesture off.

A drag started on a checked row moves all checked rows. -/

namespace PagedTable

structure DragTuning where
  threshold : Int := 1
  scrollMargin : Int := 1
  scrollStep : Int := 1
  /-- Milliseconds between two steps. -/
  scrollInterval : Nat := 100
deriving DecidableEq, Repr

structure Extent where
  top : Int
  height : Int
deriving DecidableEq, Repr

structure Drag where
  moving : List RecordId
  target : Option Target
  pointer : Nat
  pointerLine : Int
  /-- When the last step of scrolling was made, unless the pointer has been
  away from the edges since. -/
  lastScroll : Option Nat := none
deriving DecidableEq, Repr

inductive Gesture where
  | idle
  | armed (row : RecordId) (pointer : Nat) (origin : Int)
  | dragging (drag : Drag)
deriving DecidableEq, Repr

inductive GestureEvent where
  | ignored
  | armed
  | started (moving : List RecordId)
  | moved (target : Option Target)
  /-- The pointer went up without a drag. -/
  | released (row : RecordId)
  /-- A drop, without a move where there was no target. -/
  | dropped (move : Option Move)
  | cancelled
deriving DecidableEq, Repr

namespace Gesture

def drag? : Gesture → Option Drag
  | .dragging drag => some drag
  | _ => none

def isDragging (gesture : Gesture) : Bool :=
  gesture.drag?.isSome

def isArmed : Gesture → Bool
  | .armed _ _ _ => true
  | _ => false

/-- Calls the gesture off. Only a drag is worth a report. -/
def cancel : Gesture → GestureEvent × Gesture
  | .dragging _ => (.cancelled, .idle)
  | _ => (.ignored, .idle)

def pointerDown (gesture : Gesture) (pointer : Nat) (row : Option RecordId) (line : Int) :
    GestureEvent × Gesture :=
  match gesture, row with
  | .idle, none => (.ignored, .idle)
  | .idle, some row => (.armed, .armed row pointer line)
  | gesture, _ => gesture.cancel

/-- What a drag moves when it starts on a row: the checked ones in content
order when the row is checked, else the row alone. -/
def movingFrom (row : RecordId) (selection : Selection) (order : List RecordId) :
    List RecordId :=
  if selection.isChecked row then order.filter selection.isChecked else [row]

/-- A pointer moves. The order is that of the whole content. -/
def pointerMove (gesture : Gesture) (tuning : DragTuning) (pointer : Nat) (line : Int)
    (boxes : List RowBox) (selection : Selection) (order : List RecordId) :
    GestureEvent × Gesture :=
  match gesture with
  | .idle => (.ignored, gesture)
  | .armed row armedBy origin =>
    if armedBy ≠ pointer ∨ (line - origin).natAbs < tuning.threshold then (.ignored, gesture)
    else
      let moving := movingFrom row selection order
      (.started moving,
        .dragging { moving, target := dropTarget boxes moving line, pointer, pointerLine := line })
  | .dragging drag =>
    if drag.pointer ≠ pointer then (.ignored, gesture)
    else
      let target := dropTarget boxes drag.moving line
      (.moved target, .dragging { drag with target, pointerLine := line })

def pointerUp (gesture : Gesture) (pointer : Nat) : GestureEvent × Gesture :=
  match gesture with
  | .idle => (.ignored, gesture)
  | .armed row armedBy _ =>
    if armedBy = pointer then (.released row, .idle) else (.ignored, gesture)
  | .dragging drag =>
    if drag.pointer = pointer then (.dropped (drag.target.map (Move.mk drag.moving)), .idle)
    else (.ignored, gesture)

def scrollStep? (gesture : Gesture) (tuning : DragTuning) (extent : Extent) : Option Int :=
  gesture.drag?.bind fun drag =>
    if drag.pointerLine < extent.top + tuning.scrollMargin then some (-tuning.scrollStep)
    else if extent.top + extent.height - tuning.scrollMargin ≤ drag.pointerLine then
      some tuning.scrollStep
    else none

/-- A timer tick, in milliseconds: a step of scrolling, but no sooner than the
interval after the step before. -/
def tick (gesture : Gesture) (tuning : DragTuning) (now : Nat) (extent : Extent) :
    Option Int × Gesture :=
  match gesture with
  | .dragging drag =>
    match gesture.scrollStep? tuning extent with
    | none => (none, .dragging { drag with lastScroll := none })
    | some step =>
      if drag.lastScroll.any fun last => now - last < tuning.scrollInterval then (none, gesture)
      else (some step, .dragging { drag with lastScroll := some now })
  | _ => (none, gesture)

def retarget (gesture : Gesture) (boxes : List RowBox) : Gesture :=
  match gesture with
  | .dragging drag =>
    .dragging { drag with target := dropTarget boxes drag.moving drag.pointerLine }
  | _ => gesture

def target? (gesture : Gesture) : Option Target :=
  gesture.drag?.bind (·.target)

def preview? (gesture : Gesture) (page : List RecordId) : Option (List RecordId) :=
  gesture.drag?.map fun drag =>
    match drag.target with
    | some target => (Move.mk drag.moving target).apply id page
    | none => page

end Gesture

end PagedTable
