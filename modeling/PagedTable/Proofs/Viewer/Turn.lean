import Mathlib.Logic.Relation
import PagedTable.Proofs.Table.Drop
import PagedTable.Viewer.Event

/-! # What the viewer does to its table

Of all that can be done to a table the viewer does little, and every key, every
move of the mouse and every tick comes down to a few turns: the table is
refreshed for another query, page or selection, or a drag ends in a refresh, or
only the gesture and the journal change. Apart from the mouse that moves and the
clock that scrolls, nothing looks for a new target of the drag, and apart from
what is typed, nothing brings another query. Other content comes from the file
alone. -/

namespace PagedTable

/-! ## Gestures -/

/-- Whether nobody has looked for a target of a drag, and no pointer but the mouse
has armed the gesture. -/
structure Gesture.Unaimed (gesture after : Gesture) : Prop where
  grip : after.grip? = gesture.grip?
  aim : after.aim? = gesture.aim?
  press : ∀ press ∈ after.press?,
    press.pointer = mousePointer ∨ gesture.press? = some press

theorem Gesture.Unaimed.refl (gesture : Gesture) : gesture.Unaimed gesture :=
  ⟨rfl, rfl, fun _ pressed => Or.inr pressed⟩

namespace Table

variable {aiming filtering : Prop}

/-! ## Turns -/

/-- Whether the viewer may perform an operation. Where it is `aiming` a drag may get
a new target, and where it is `filtering` the table may get another query. -/
structure Operation.IsTurn (aiming filtering : Prop) (operation : Operation) : Prop where
  noUpdate : operation.update? = none := by rfl
  noInvalidate : operation.invalidated? = none := by rfl
  query : filtering ∨ operation.query? = none := by exact Or.inr rfl
  aims : aiming ∨ operation.aims = false := by exact Or.inr rfl
  press : ∀ pointer row line, operation = .pointerDown pointer (some row) line →
    pointer = mousePointer := by exact nofun

inductive Turn (aiming filtering : Prop) (table : Table) : Table → Prop
  | refreshed (changed : Table) (notices : List Notice) (hooks : changed.hooks = table.hooks)
      (content : changed.content = table.content) (pending : changed.pending = table.pending)
      (rows : changed.rows = table.rows)
      (gesture : changed.gesture = table.gesture ∨ changed.gesture = .idle)
      (query : filtering ∨ changed.query = table.query) :
      Turn aiming filtering table (changed.refresh.note notices)
  | ended (content : List Record) (notices : List Notice)
      (known : ∀ record ∈ content, record ∈ table.pending.getD table.content) :
      Turn aiming filtering table
        ({ table with gesture := .idle, content, pending := none }.note notices).refresh
  | touched (gesture : Gesture) (journal : List Notice)
      (unaimed : aiming ∨ table.gesture.Unaimed gesture) :
      Turn aiming filtering table { table with gesture, journal }

theorem perform_turn (table : Table) {operation : Operation}
    (turns : operation.IsTurn aiming filtering) :
    Turn aiming filtering table (table.perform operation).2 := by
  have effect := table.perform_effect operation
  generalize (table.perform operation).2 = after at effect ⊢
  cases effect with
  | refreshed changed notices changes =>
      refine .refreshed changed notices changes.hooks ?_ changes.pending changes.rows
        (changes.gesture.imp id And.left) (turns.query.imp id fun none => ?_)
      · rcases changes.content with ⟨_, kept⟩ | ⟨update, _⟩
        · rw [kept, Operation.forget, turns.noInvalidate]
          rfl
        · rw [turns.noUpdate] at update
          cases update
      · rw [changes.query, none]
        rfl
  | touched gesture grip noUpdate press aim =>
      refine .touched gesture table.journal (turns.aims.imp id fun quiet => ⟨grip, ?_, ?_⟩)
      · exact aim.resolve_left (Bool.eq_false_iff.mp quiet)
      · intro pressed member
        exact (press pressed member).symm.imp (fun armed => turns.press _ _ _ armed.1) id
  | deferred records update =>
      rw [turns.noUpdate] at update
      cases update
  | started row pointer origin armed gesture grip noUpdate aims =>
      exact .touched gesture _ (Or.inl (turns.aims.resolve_right (by rw [aims]; decide)))
  | cancelled => exact .ended (table.pending.getD table.content) [.dragCancelled] fun _ same => same
  | dropped drag =>
      rw [finishDrop_eq]
      exact .ended _ _ fun _ member => mem_of_mem_moved member

theorem Turn.query_eq {table after : Table} (turn : Turn aiming filtering table after)
    (quiet : ¬ filtering) : after.query = table.query := by
  cases turn with
  | refreshed changed notices _ _ _ _ _ query =>
      exact changed.refresh_query.trans (query.resolve_left quiet)
  | ended => exact refresh_query _
  | touched => rfl

def Course (aiming filtering : Prop) : Table → Table → Prop :=
  Relation.ReflTransGen (Turn aiming filtering)

namespace Course

theorem refl (table : Table) : Course aiming filtering table table :=
  Relation.ReflTransGen.refl

theorem trans {first second third : Table} (earlier : Course aiming filtering first second)
    (later : Course aiming filtering second third) : Course aiming filtering first third :=
  Relation.ReflTransGen.trans earlier later

theorem perform {table : Table} (operation : Operation)
    (turns : operation.IsTurn aiming filtering) :
    Course aiming filtering table (table.perform operation).2 :=
  .single (table.perform_turn turns)

/-- What every turn preserves, a course preserves. -/
theorem keeps {table after : Table} (course : Course aiming filtering table after)
    (property : Table → Prop) (holds : property table)
    (turns : ∀ {before next : Table}, Turn aiming filtering before next →
      property before → property next) : property after := by
  induction course with
  | refl => exact holds
  | tail _ turn induction => exact turns turn induction

theorem query_eq {table after : Table} (course : Course aiming filtering table after)
    (quiet : ¬ filtering) : after.query = table.query := by
  refine course.keeps (·.query = table.query) rfl ?_
  intro before next turn same
  exact (turn.query_eq quiet).trans same

end Course

theorem update_gesture (table : Table) (records : List Record) :
    (table.update records).gesture = table.gesture := by
  unfold update
  split
  · rfl
  · exact refresh_gesture _

theorem update_query (table : Table) (records : List Record) :
    (table.update records).query = table.query := by
  unfold update
  split
  · rfl
  · exact refresh_query _

end Table

namespace Viewer

variable {aiming filtering : Prop}

/-! ## Handlers -/

/-- The viewer goes on without a look at the file. Most handlers change nothing
but the table. -/
structure Proceeds (aiming filtering : Prop) (before after : Viewer) : Prop where
  course : Table.Course aiming filtering before.table after.table := by exact .refl _
  entry : filtering ∨ after.entry = before.entry := by exact Or.inr rfl
  headers : after.headers = before.headers := by rfl
  lastRevision : after.lastRevision = before.lastRevision := by rfl

namespace Proceeds

theorem refl (viewer : Viewer) : Proceeds aiming filtering viewer viewer where

theorem trans {first second third : Viewer} (earlier : Proceeds aiming filtering first second)
    (later : Proceeds aiming filtering second third) : Proceeds aiming filtering first third where
  course := earlier.course.trans later.course
  entry := by
    rcases earlier.entry, later.entry with ⟨filters | same, filters' | same'⟩
    · exact Or.inl filters
    · exact Or.inl filters
    · exact Or.inl filters'
    · exact Or.inr (same'.trans same)
  headers := later.headers.trans earlier.headers
  lastRevision := later.lastRevision.trans earlier.lastRevision

end Proceeds

/-! ### Keys -/

theorem followShortcut_proceeds (viewer : Viewer) (shortcut : Shortcut) :
    Proceeds aiming filtering viewer (viewer.followShortcut shortcut) := by
  have course : Table.Course aiming filtering viewer.table _ := .perform (.shortcut shortcut) {}
  unfold followShortcut
  dsimp only
  split
  · exact { course }
  · exact { course }

theorem clickCursor_proceeds (viewer : Viewer) (extend : Bool) :
    Proceeds aiming filtering viewer (viewer.clickCursor extend) := by
  unfold clickCursor
  split
  case h_1 id _ => exact { course := .perform (.clickItem id extend) {} }
  case h_2 => exact .refl viewer

theorem typeChar_proceeds (viewer : Viewer) (char : Char) (press : KeyPress)
    (slash : char = '/' → filtering) :
    Proceeds aiming filtering viewer (viewer.typeChar char press) := by
  unfold typeChar
  split
  · exact {}
  · split
    · exact {}
    · exact .refl viewer
  · exact { entry := Or.inl (slash rfl) }
  · exact {}
  · exact {}
  · exact viewer.clickCursor_proceeds press.shift
  · exact { course := .perform .clickTitle {} }
  · exact .refl viewer

theorem pressNormal_proceeds (viewer : Viewer) (press : KeyPress)
    (slash : press.key = .char '/' → filtering) :
    Proceeds aiming filtering viewer (viewer.pressNormal press) := by
  unfold pressNormal
  split
  · exact viewer.followShortcut_proceeds _
  · split
    · exact {}
    · exact {}
    case h_3 char known =>
      exact viewer.typeChar_proceeds char press fun same => slash (same ▸ known)
    · exact .refl viewer

theorem pressFilter_proceeds (viewer : Viewer) (press : KeyPress) (now : Nat)
    (filters : filtering) : Proceeds aiming filtering viewer (viewer.pressFilter press now) := by
  unfold pressFilter
  dsimp only
  split
  · exact { entry := Or.inl filters }
  case h_2 text _ =>
    exact
      { course := .perform (.applyFilter text) { query := Or.inl filters }
        entry := Or.inl filters }
  case h_3 =>
    exact
      { course := .perform .clearFilter { query := Or.inl filters }
        entry := Or.inl filters }

/-! ### The mouse -/

theorem clickPagerAt_proceeds (viewer : Viewer) (column : Nat) :
    Proceeds aiming filtering viewer (viewer.clickPagerAt column) := by
  unfold clickPagerAt
  split
  · exact .refl viewer
  case h_2 entry _ =>
    have course : Table.Course aiming filtering viewer.table _ := .perform (.clickPager entry) {}
    dsimp only
    split
    · exact { course }
    · exact { course }

theorem pressBody_proceeds (viewer : Viewer) (event : MouseEvent) :
    Proceeds aiming filtering viewer (viewer.pressBody event) := by
  unfold pressBody
  dsimp only
  split
  case h_1 id _ _ => exact { course := .perform (.clickItem id event.shift) {} }
  case h_2 =>
    have mouse (row : Option RecordId) :
        (Table.Operation.pointerDown mousePointer row event.line).IsTurn aiming filtering :=
      { press := by rintro pointer shown line ⟨⟩; rfl }
    exact { course := .perform (.pointerDown mousePointer _ event.line) (mouse _) }

theorem pressLeft_proceeds (viewer : Viewer) (event : MouseEvent) :
    Proceeds aiming filtering viewer (viewer.pressLeft event) := by
  unfold pressLeft
  split
  · exact viewer.clickPagerAt_proceeds event.column
  · split
    · exact { course := .perform .clickTitle {} }
    · exact viewer.pressBody_proceeds event

theorem scroll_proceeds (viewer : Viewer) (step : Int) :
    Proceeds aiming filtering viewer (viewer.scroll step) := by
  unfold scroll
  exact {}

theorem mouse_proceeds (viewer : Viewer) (event : MouseEvent) :
    Proceeds (event.action = .drag .left) filtering viewer (viewer.mouse event) := by
  unfold mouse
  split
  · exact viewer.pressLeft_proceeds event
  · exact { course := .perform (.pointerDown otherPointer none event.line) {} }
  case h_3 drags =>
    exact
      { course := .perform (.pointerMove mousePointer event.line viewer.boxes)
          { aims := Or.inl drags } }
  · exact { course := .perform (.pointerUp mousePointer event.shift) {} }
  · exact viewer.scroll_proceeds 1
  · exact viewer.scroll_proceeds (-1)
  · exact .refl viewer

/-! ### The clock -/

theorem pollFilter_proceeds (viewer : Viewer) (now : Nat)
    (filters : viewer.mode = .filter → filtering) :
    Proceeds aiming filtering viewer (viewer.pollFilter now) := by
  unfold pollFilter
  split
  · exact .refl viewer
  case h_2 typing =>
    have typed := filters typing
    dsimp only
    split
    · exact { entry := Or.inl typed }
    case h_2 text _ =>
      exact
        { course := .perform (.applyFilter text) { query := Or.inl typed }
          entry := Or.inl typed }

def ScrollsAt (viewer : Viewer) (now : Nat) : Prop :=
  (viewer.table.tick now viewer.body.extent).1.isSome = true

instance (viewer : Viewer) (now : Nat) : Decidable (viewer.ScrollsAt now) :=
  inferInstanceAs (Decidable (_ = true))

theorem autoScroll_proceeds (viewer : Viewer) (now : Nat) :
    Proceeds (viewer.ScrollsAt now) filtering viewer (viewer.autoScroll now) := by
  have ticked : Table.Course (viewer.ScrollsAt now) filtering viewer.table
      (viewer.table.tick now viewer.body.extent).2 := .perform (.tick now viewer.body.extent) {}
  unfold autoScroll
  dsimp only
  split
  case h_1 => exact { course := ticked }
  case h_2 step scrolls =>
    have aims : viewer.ScrollsAt now := by rw [ScrollsAt, scrolls]; rfl
    exact { course := ticked.trans (.perform (.retarget _) { aims := Or.inl aims }) }

theorem readNotices_proceeds (viewer : Viewer) :
    Proceeds aiming filtering viewer viewer.readNotices where
  course := .single (.touched viewer.table.gesture [] (Or.inr (.refl _)))

/-! ## The file -/

inductive Looks (viewer : Viewer) (file : Option File) : Viewer → Prop
  | unchanged (lastCheck : Nat) : Looks viewer file { viewer with lastCheck }
  | failed (found : File) (there : file = some found)
      (changed : viewer.lastRevision ≠ some found.revision) (lastCheck : Nat)
      (message : Option String) :
      Looks viewer file
        { viewer with lastCheck, lastRevision := some found.revision, message }
  | replaced (found : File) (there : file = some found)
      (changed : viewer.lastRevision ≠ some found.revision) (lastCheck : Nat) (loaded : Loaded)
      (load : viewer.source.load viewer.settings file = .ok loaded) :
      Looks viewer file
        ({ viewer with lastCheck, lastRevision := some found.revision }.replace loaded)

theorem reload_looks (viewer : Viewer) (lastCheck : Nat) (file : Option File) :
    Looks viewer file ({ viewer with lastCheck }.reload file) := by
  unfold reload
  split
  · exact .unchanged lastCheck
  case h_2 found =>
    split
    · exact .unchanged lastCheck
    case isFalse changed =>
      dsimp only
      split
      case h_1 loaded load =>
        refine .replaced found rfl ?_ lastCheck loaded ?_
        · exact changed
        · exact load
      case h_2 =>
        refine .failed found rfl ?_ lastCheck _
        exact changed

theorem checkFile_looks (viewer : Viewer) (now : Nat) (file : Option File) :
    Looks viewer file (viewer.checkFile now file) := by
  unfold checkFile
  split
  · exact viewer.reload_looks now file
  · exact .unchanged viewer.lastCheck

/-! ## Events -/

def Event.file? : Event → Option File
  | .tick _ file => file
  | .reload file => file
  | _ => none

def AimsAt (viewer : Viewer) : Event → Prop
  | .mouse event => event.action = .drag .left
  | .tick now _ => (viewer.pollFilter now).ScrollsAt now
  | _ => False

def FiltersAt (viewer : Viewer) : Event → Prop
  | .key press _ => viewer.mode = .filter ∨ press.key = .char '/'
  | .tick _ _ => viewer.mode = .filter
  | _ => False

theorem press_proceeds (viewer : Viewer) (press : KeyPress) (now : Nat) :
    Proceeds aiming (viewer.FiltersAt (.key press now)) viewer (viewer.press press now) := by
  unfold Viewer.press
  split
  · exact viewer.pressNormal_proceeds press Or.inr
  case h_2 typing => exact viewer.pressFilter_proceeds press now (Or.inl typing)

/-- The clock looks at the file after all it does to the table. -/
theorem tick_looks (viewer : Viewer) (now : Nat) (file : Option File) :
    ∃ after, Looks ((viewer.pollFilter now).autoScroll now) file after ∧
      Proceeds False False after (viewer.tick now file) :=
  ⟨_, checkFile_looks _ now file, readNotices_proceeds _⟩

/-- At any event the viewer looks at the file once at most, and proceeds before and
after that. -/
theorem exists_look (viewer : Viewer) (event : Event) :
    ∃ before after, Proceeds (viewer.AimsAt event) (viewer.FiltersAt event) viewer before ∧
      Looks before event.file? after ∧ Proceeds False False after (viewer.handle event) := by
  cases event with
  | key press now =>
      exact ⟨_, _, viewer.press_proceeds press now, .unchanged _, .refl _⟩
  | mouse event => exact ⟨_, _, viewer.mouse_proceeds event, .unchanged _, .refl _⟩
  | tick now file =>
      rcases viewer.tick_looks now file with ⟨after, looks, read⟩
      exact ⟨_, after, (viewer.pollFilter_proceeds now id).trans (autoScroll_proceeds _ now), looks,
        read⟩
  | reload file =>
      exact ⟨viewer, _, .refl viewer, viewer.reload_looks viewer.lastCheck file, .refl _⟩
  | layOut area => exact ⟨viewer.layOut area, _, {}, .unchanged _, .refl _⟩
  | clearMessage => exact ⟨viewer.handle .clearMessage, _, {}, .unchanged _, .refl _⟩

/-! ### Runs -/

theorem run_cons (viewer : Viewer) (event : Event) (events : List Event) :
    viewer.run (event :: events) = (viewer.handle event).run events := rfl

theorem run_append (viewer : Viewer) (first second : List Event) :
    viewer.run (first ++ second) = (viewer.run first).run second :=
  List.foldl_append

theorem exists_loaded_of_start {source : Source} {settings : Settings} {watch : Bool}
    {file : Option File} {viewer : Viewer}
    (started : start source settings watch file = .ok viewer) :
    ∃ loaded, source.load settings file = .ok loaded ∧
      ofLoaded source settings watch (file.map File.revision) loaded = viewer := by
  unfold start at started
  cases load : source.load settings file with
  | error error =>
      rw [load] at started
      cases started
  | ok loaded =>
      rw [load] at started
      exact ⟨loaded, rfl, Except.ok.inj started⟩

def fileOf (text : String) (revision : Nat) : File :=
  ⟨text.toUTF8.data.toList, revision⟩

theorem exists_ok_of_mem_toOption {shown : Except ReadError Viewer} {property : Viewer → Prop}
    (computed : ∃ viewer ∈ shown.toOption, property viewer) :
    ∃ viewer, shown = .ok viewer ∧ property viewer := by
  rcases computed with ⟨viewer, member, holds⟩
  cases shown with
  | error error => cases member
  | ok other => exact ⟨viewer, congrArg Except.ok (Option.some.inj member), holds⟩

end Viewer

end PagedTable
