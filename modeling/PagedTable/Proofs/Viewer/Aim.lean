import PagedTable.Proofs.Viewer.Turn

/-! # Where a drop lands

The target of a drag is found among the rows on screen when the mouse moves, and
again when the clock scrolls. In between it stays what it is, and so a drop lands
next to the row under the pointer if the rows on screen are still those that the
drag was aimed at. Where a wheel, a key, a filter or another size of the screen
has moved the rows meanwhile, it lands where the rows were before. -/

namespace PagedTable

structure Aim where
  boxes : List RowBox := []
  line : Int := 0
deriving DecidableEq, Repr

/-! ## Gestures -/

namespace Gesture

/-- Whether the mouse holds the gesture and the target of a drag is where it was
aimed at. -/
def AimedAt (aim : Aim) : Gesture → Prop
  | .idle => True
  | .armed _ pointer _ => pointer = mousePointer
  | .dragging drag =>
    drag.pointer = mousePointer ∧ drag.pointerLine = aim.line ∧
      drag.target = dropTarget aim.boxes drag.moving aim.line

variable {aim : Aim} {gesture : Gesture}

theorem Unaimed.aimedAt {after : Gesture} (unaimed : gesture.Unaimed after)
    (aimed : gesture.AimedAt aim) : after.AimedAt aim := by
  rcases unaimed with ⟨grip, sameAim, press⟩
  cases after with
  | idle => trivial
  | armed row pointer origin =>
      rcases press ⟨row, pointer, origin⟩ rfl with mouse | same
      · exact mouse
      · cases gesture with
        | armed armedRow armedBy armedAt =>
            cases same
            exact aimed
        | _ => cases same
  | dragging drag =>
      cases gesture with
      | dragging held =>
          rcases drag with ⟨moving, target, pointer, line, lastScroll⟩
          cases grip
          cases sameAim
          exact aimed
      | _ => cases grip

/-- Only of a drag does it matter what it was aimed at. -/
theorem AimedAt.of_dragging {other : Aim} (aimed : gesture.AimedAt aim)
    (same : gesture.isDragging = true → other = aim) : gesture.AimedAt other := by
  cases gesture with
  | idle => trivial
  | armed row pointer origin => exact aimed
  | dragging drag =>
      rw [same rfl]
      exact aimed

theorem AimedAt.pointerMove (aimed : gesture.AimedAt aim) (tuning : DragTuning) (line : Int)
    (boxes : List RowBox) (selection : Selection) (order : List RecordId) :
    (gesture.pointerMove tuning mousePointer line boxes selection order).2.AimedAt
      ⟨boxes, line⟩ := by
  cases gesture with
  | idle => trivial
  | armed row pointer origin =>
      unfold Gesture.pointerMove
      dsimp only
      split
      · exact aimed
      · exact ⟨rfl, rfl, rfl⟩
  | dragging drag =>
      unfold Gesture.pointerMove
      dsimp only
      rw [if_neg (not_not_intro aimed.1)]
      exact ⟨aimed.1, rfl, rfl⟩

theorem AimedAt.retarget (aimed : gesture.AimedAt aim) (boxes : List RowBox) :
    (gesture.retarget boxes).AimedAt { aim with boxes } := by
  cases gesture with
  | idle => trivial
  | armed row pointer origin => exact aimed
  | dragging drag =>
      refine ⟨aimed.1, aimed.2.1, ?_⟩
      rw [← aimed.2.1]

end Gesture

namespace Table

variable {aiming filtering : Prop} {aim : Aim} {table after : Table}

theorem Turn.aimedAt (turn : Turn aiming filtering table after) (quiet : ¬ aiming)
    (aimed : table.gesture.AimedAt aim) : after.gesture.AimedAt aim := by
  cases turn with
  | refreshed changed notices _ _ _ _ gesture =>
      change changed.refresh.gesture.AimedAt aim
      rw [refresh_gesture]
      rcases gesture with same | idle
      · rw [same]
        exact aimed
      · rw [idle]
        trivial
  | ended content notices known =>
      rw [refresh_gesture]
      trivial
  | touched gesture journal unaimed => exact (unaimed.resolve_left quiet).aimedAt aimed

theorem Course.aimedAt (course : Course aiming filtering table after) (quiet : ¬ aiming)
    (aimed : table.gesture.AimedAt aim) : after.gesture.AimedAt aim :=
  course.keeps (·.gesture.AimedAt aim) aimed fun turn => turn.aimedAt quiet

theorem pointerMove_gesture (table : Table) (pointer : Nat) (line : Int) (boxes : List RowBox) :
    (table.pointerMove pointer line boxes).gesture =
      (table.gesture.pointerMove table.options.drag pointer line boxes table.selection
        table.contentIds).2 := by
  unfold pointerMove
  dsimp only
  split <;> rfl

theorem pointerMove_pageIds (table : Table) (pointer : Nat) (line : Int) (boxes : List RowBox) :
    (table.pointerMove pointer line boxes).pageIds = table.pageIds := by
  unfold pointerMove
  dsimp only
  split <;> rfl

end Table

namespace Viewer

variable {aim : Aim} {viewer : Viewer}

/-! ## Events -/

theorem Proceeds.aimedAt {aiming filtering : Prop} {after : Viewer}
    (proceeds : Proceeds aiming filtering viewer after) (quiet : ¬ aiming)
    (aimed : viewer.table.gesture.AimedAt aim) : after.table.gesture.AimedAt aim :=
  proceeds.course.aimedAt quiet aimed

theorem Looks.gesture_eq {file : Option File} {after : Viewer} (looks : Looks viewer file after) :
    after.table.gesture = viewer.table.gesture := by
  cases looks with
  | unchanged | failed => rfl
  | replaced found there changed lastCheck loaded =>
      exact Table.update_gesture _ loaded.records

/-- What the file brings moves no rows during a drag. -/
theorem Looks.boxes_eq {file : Option File} {after : Viewer} (looks : Looks viewer file after)
    (dragging : viewer.table.isDragging = true) : after.boxes = viewer.boxes := by
  cases looks with
  | unchanged | failed => rfl
  | replaced found there changed lastCheck loaded =>
      have deferred : { viewer.table with hooks := headerHooks loaded.headers }.update
            loaded.records =
          { viewer.table with
            hooks := headerHooks loaded.headers
            pending := some loaded.records } := if_pos dragging
      change viewer.body.boxes (Table.update _ _).pageIds = viewer.boxes
      rw [deferred]
      rfl

/-- What a drag is aimed at after an event, given what it was aimed at before. The
mouse aims when it moves, and so does the clock when it scrolls. -/
def aimAfter (viewer : Viewer) (aim : Aim) : Event → Aim
  | .mouse event =>
    if event.action = .drag .left then ⟨(viewer.mouse event).boxes, event.line⟩ else aim
  | .tick now file =>
    if (viewer.pollFilter now).ScrollsAt now then { aim with boxes := (viewer.tick now file).boxes }
    else aim
  | _ => aim

def lastAim (viewer : Viewer) (aim : Aim) : List Event → Aim
  | [] => aim
  | event :: events => (viewer.handle event).lastAim (viewer.aimAfter aim event) events

theorem aimAfter_of_quiet {event : Event} (quiet : ¬ viewer.AimsAt event) :
    viewer.aimAfter aim event = aim := by
  cases event with
  | mouse event => exact if_neg quiet
  | tick now file => exact if_neg quiet
  | _ => rfl

theorem aimedAt_drag (aimed : viewer.table.gesture.AimedAt aim) {event : MouseEvent}
    (drags : event.action = .drag .left) :
    (viewer.mouse event).table.gesture.AimedAt (viewer.aimAfter aim (.mouse event)) := by
  have moved : viewer.mouse event =
      { viewer with
        table := viewer.table.pointerMove mousePointer event.line viewer.boxes } := by
    unfold mouse
    rw [drags]
  have sameBoxes : (viewer.mouse event).boxes = viewer.boxes := by
    rw [moved]
    exact congrArg viewer.body.boxes (viewer.table.pointerMove_pageIds _ _ _)
  rw [aimAfter, if_pos drags, sameBoxes, moved, Table.pointerMove_gesture]
  exact aimed.pointerMove _ _ _ _ _

theorem aimedAt_autoScroll (aimed : viewer.table.gesture.AimedAt aim) {now : Nat}
    (scrolls : viewer.ScrollsAt now) :
    (viewer.autoScroll now).table.gesture.AimedAt
      { aim with boxes := (viewer.autoScroll now).boxes } := by
  unfold ScrollsAt at scrolls
  rcases Option.isSome_iff_exists.mp scrolls with ⟨step, known⟩
  let ticked := (viewer.table.tick now viewer.body.extent).2
  have ticks : Proceeds False False viewer { viewer with table := ticked } :=
    { course := .perform (.tick now viewer.body.extent) {} }
  let scrolled := { viewer with table := ticked }.scroll step
  have whole : viewer.autoScroll now =
      { scrolled with table := scrolled.table.retarget scrolled.boxes } := by
    unfold autoScroll
    dsimp only
    rw [known]
  rw [whole]
  exact (ticks.aimedAt id aimed).retarget scrolled.boxes

/-- The file comes last in a tick, when the drag has been told of the rows. -/
theorem aimedAt_tick (aimed : viewer.table.gesture.AimedAt aim) {now : Nat} (file : Option File)
    (scrolls : (viewer.pollFilter now).ScrollsAt now) :
    (viewer.tick now file).table.gesture.AimedAt (viewer.aimAfter aim (.tick now file)) := by
  have typed : Proceeds False True viewer _ := viewer.pollFilter_proceeds now fun _ => trivial
  have scrolled := aimedAt_autoScroll (typed.aimedAt id aimed) scrolls
  rcases viewer.tick_looks now file with ⟨after, looks, read⟩
  apply read.aimedAt id
  rw [looks.gesture_eq, aimAfter, if_pos scrolls]
  apply scrolled.of_dragging
  intro dragging
  have sameBoxes : (viewer.tick now file).boxes = ((viewer.pollFilter now).autoScroll now).boxes :=
    (checkFile_looks _ now file).boxes_eq dragging
  rw [sameBoxes]

theorem handle_aimedAt (aimed : viewer.table.gesture.AimedAt aim) (event : Event) :
    (viewer.handle event).table.gesture.AimedAt (viewer.aimAfter aim event) := by
  by_cases aims : viewer.AimsAt event
  · cases event with
    | mouse event => exact aimedAt_drag aimed aims
    | tick now file => exact aimedAt_tick aimed file aims
    | _ => cases aims
  · rcases viewer.exists_look event with ⟨before, after, proceeds, looks, goesOn⟩
    rw [aimAfter_of_quiet aims]
    apply goesOn.aimedAt id
    rw [looks.gesture_eq]
    exact proceeds.aimedAt aims aimed

/-! ## Runs -/

theorem run_aimedAt (events : List Event) (aimed : viewer.table.gesture.AimedAt aim) :
    (viewer.run events).table.gesture.AimedAt (viewer.lastAim aim events) := by
  induction events generalizing viewer aim with
  | nil => exact aimed
  | cons event events induction =>
      rw [run_cons, lastAim]
      exact induction (handle_aimedAt aimed event)

theorem start_idle {source : Source} {settings : Settings} {watch : Bool} {file : Option File}
    (started : start source settings watch file = .ok viewer) : viewer.table.gesture = .idle := by
  rcases exists_loaded_of_start started with ⟨loaded, _, rfl⟩
  exact Table.update_gesture _ loaded.records

/-! ## Drops -/

theorem mouse_up_of_held {drag : Drag} (held : viewer.table.gesture = .dragging drag)
    (mouse : drag.pointer = mousePointer) (column line : Nat) (shift : Bool) :
    (viewer.mouse ⟨.up .left, column, line, shift⟩).table =
      { viewer.table with gesture := .idle }.finishDrop
        (drag.target.map (Move.mk drag.moving)) := by
  change (viewer.table.pointerUp mousePointer shift).2 = _
  rw [← mouse, Table.pointerUp_of_held held]

/-- A drag has the target it was last aimed at. If the rows on screen have stayed
since then, that is the row under the pointer, and next to it a drop lands. -/
theorem drop_lands_where_aimed {source : Source} {settings : Settings} {watch : Bool}
    {file : Option File} {viewer : Viewer} (events : List Event) (drag : Drag)
    (started : start source settings watch file = .ok viewer)
    (held : (viewer.run events).table.gesture = .dragging drag) :
    let dragged := viewer.run events
    let aim := viewer.lastAim {} events
    let base := dragged.table.pending.getD dragged.table.content
    drag.pointerLine = aim.line ∧
    drag.target = dropTarget aim.boxes drag.moving drag.pointerLine ∧
    (dragged.boxes = aim.boxes →
      let target := dropTarget dragged.boxes drag.moving drag.pointerLine
      drag.target = target ∧
      ∀ (column line : Nat) (shift : Bool),
        let dropped := dragged.handle (.mouse ⟨.up .left, column, line, shift⟩)
        dropped.table.gesture = .idle ∧
        dropped.table.contentIds =
          (Table.moved (target.map (Move.mk drag.moving)) base).map Record.id) := by
  intro dragged aim base
  have aimed : dragged.table.gesture.AimedAt aim := by
    apply run_aimedAt
    rw [start_idle started]
    trivial
  rw [held] at aimed
  rcases aimed with ⟨mouse, line, target⟩
  rw [← line] at target
  refine ⟨line, target, ?_⟩
  intro same shown
  have shownTarget : drag.target = shown := by rw [target, ← same]
  refine ⟨shownTarget, ?_⟩
  intro column line shift dropped
  have whole : dropped.table =
      { dragged.table with gesture := .idle }.finishDrop (shown.map (Move.mk drag.moving)) := by
    rw [← shownTarget]
    exact mouse_up_of_held held mouse column line shift
  rw [whole, Table.finishDrop_eq]
  refine ⟨?_, ?_⟩
  · exact Table.refresh_gesture _
  · exact Table.refresh_contentIds _

/-! ### A page longer than the screen -/

/-- Eight rows, of which four are on screen. -/
def letters? : Except ReadError Viewer :=
  start ⟨"letters.csv", comma⟩ {} false (some (fileOf "name\na\nb\nc\nd\ne\nf\ng\nh\n" 0))

def firstOntoThird : List Event :=
  [.layOut ⟨0, 0, 80, 10⟩, .mouse ⟨.down .left, 10, 2, false⟩, .mouse ⟨.drag .left, 10, 4, false⟩]

/-- After a turn of the wheel the fourth row is under the pointer, and the drop
still goes to the third. -/
theorem drop_lands_elsewhere_after_wheel :
    let events : List Event := firstOntoThird ++ [.mouse ⟨.scrollDown, 10, 4, false⟩]
    ∃ viewer, letters? = .ok viewer ∧ ∃ drag ∈ (viewer.run events).table.gesture.drag?,
      drag.target = some ⟨.number 3, .after⟩ ∧
      dropTarget (viewer.run events).boxes drag.moving drag.pointerLine =
        some ⟨.number 4, .after⟩ := by
  intro events
  apply exists_ok_of_mem_toOption
  decide +kernel

/-- The mouse moves on after the wheel, to the last line, and then the clock
scrolls. -/
theorem drop_lands_where_aimed_after_scrolling :
    let events : List Event := firstOntoThird ++
      [.mouse ⟨.scrollDown, 10, 4, false⟩, .mouse ⟨.drag .left, 10, 5, false⟩, .tick 0 none]
    ∃ viewer, letters? = .ok viewer ∧
      ∃ drag, (viewer.run events).table.gesture = .dragging drag ∧
        (viewer.run events).boxes = (viewer.lastAim {} events).boxes ∧
        drag.target = some ⟨.number 6, .after⟩ ∧
        ((viewer.run events).handle (.mouse ⟨.up .left, 10, 5, false⟩)).table.contentIds =
          [2, 3, 4, 5, 6, 1, 7, 8].map RecordId.number := by
  intro events
  have computed : ∃ viewer ∈ letters?.toOption,
      ∃ drag ∈ (viewer.run events).table.gesture.drag?,
        (viewer.run events).boxes = (viewer.lastAim {} events).boxes ∧
        dropTarget (viewer.run events).boxes drag.moving drag.pointerLine =
          some ⟨.number 6, .after⟩ ∧
        (Table.moved (some ⟨drag.moving, .number 6, .after⟩)
          ((viewer.run events).table.pending.getD (viewer.run events).table.content)).map
            Record.id = [2, 3, 4, 5, 6, 1, 7, 8].map RecordId.number := by
    decide +kernel
  rcases exists_ok_of_mem_toOption computed with
    ⟨viewer, started, drag, member, same, target, ids⟩
  have held : (viewer.run events).table.gesture = .dragging drag := by
    cases known : (viewer.run events).table.gesture with
    | dragging other =>
        rw [known] at member
        rw [Option.some.inj member]
    | _ => rw [known] at member; cases member
  rcases drop_lands_where_aimed events drag started held with ⟨_, _, lands⟩
  rcases lands same with ⟨shown, drops⟩
  refine ⟨viewer, started, drag, held, same, shown.trans target, ?_⟩
  rw [(drops 10 5 false).2, target]
  exact ids

end Viewer

end PagedTable
