import PagedTable.Viewer.Watch

/-! # Events

Everything that happens to the viewer is an event: a key, something the mouse
does, a tick of the clock, a new size of the screen. -/

namespace PagedTable

inductive MouseButton where
  | left
  | right
  | middle
deriving DecidableEq, Repr

inductive MouseAction where
  | down (button : MouseButton)
  | up (button : MouseButton)
  /-- The mouse moves while a button is down. -/
  | drag (button : MouseButton)
  | moved
  | scrollDown
  | scrollUp
  | scrollLeft
  | scrollRight
deriving DecidableEq, Repr

structure MouseEvent where
  action : MouseAction
  column : Nat
  line : Nat
  shift : Bool := false
deriving DecidableEq, Repr

/-- The mouse with its left button; any other button is a second pointer. -/
def mousePointer : Nat := 0

def otherPointer : Nat := 1

def Notice.message? : Notice → Option String
  | .dragEnded (some move) =>
    let side := match move.target.placement with | .before => "Before" | .after => "After"
    some ("Moved " ++ toString move.ids.length ++ " row(s) " ++ side ++ " " ++
      move.target.anchor.display)
  | .dragEnded none => some "Nothing moved"
  | .dragCancelled => some "Drag cancelled"
  | _ => none

namespace Viewer

/-! ## Keys -/

def followShortcut (viewer : Viewer) (shortcut : Shortcut) : Viewer :=
  let result := viewer.table.shortcut shortcut
  let viewer := { viewer with table := result.2 }
  if result.1 ∧ shortcut ≠ .abort then viewer.moveToTop else viewer

def enterFilter (viewer : Viewer) : Viewer :=
  { viewer with mode := .filter, entry := .start viewer.table.query.text }

def clickCursor (viewer : Viewer) (extend : Bool) : Viewer :=
  match viewer.table.pageIds[viewer.body.cursor]? with
  | some id => { viewer with table := viewer.table.clickItem id extend }
  | none => viewer

def typeChar (viewer : Viewer) (char : Char) (press : KeyPress) : Viewer :=
  match char with
  | 'q' => { viewer with quit := true }
  | 'c' => if press.control then { viewer with quit := true } else viewer
  | '/' => viewer.enterFilter
  | 'k' => { viewer with body := viewer.body.moveUp }
  | 'j' => { viewer with body := viewer.body.moveDown viewer.pageLength }
  | ' ' => viewer.clickCursor press.shift
  | 'a' => { viewer with table := viewer.table.clickTitle }
  | _ => viewer

def pressNormal (viewer : Viewer) (press : KeyPress) : Viewer :=
  match press.shortcut? with
  | some shortcut => viewer.followShortcut shortcut
  | none =>
    match press.key with
    | .up => { viewer with body := viewer.body.moveUp }
    | .down => { viewer with body := viewer.body.moveDown viewer.pageLength }
    | .char char => viewer.typeChar char press
    | _ => viewer

def pressFilter (viewer : Viewer) (press : KeyPress) (now : Nat) : Viewer :=
  let result := viewer.entry.press press now
  let viewer := { viewer with entry := result.2 }
  match result.1 with
  | .goOn => viewer
  | .apply text =>
    { viewer with table := viewer.table.applyFilter text, mode := .normal }.moveToTop
  | .cancel => { viewer with table := viewer.table.clearFilter, mode := .normal }.moveToTop

def press (viewer : Viewer) (press : KeyPress) (now : Nat) : Viewer :=
  match viewer.mode with
  | .normal => viewer.pressNormal press
  | .filter => viewer.pressFilter press now

/-! ## The mouse -/

def clickPagerAt (viewer : Viewer) (column : Nat) : Viewer :=
  match (entryAt? column viewer.pagerArea.left viewer.table.bar).bind (viewer.table.bar[·]?) with
  | none => viewer
  | some entry =>
    let result := viewer.table.clickPager entry
    let viewer := { viewer with table := result.2 }
    if result.1 then viewer.moveToTop else viewer

/-- The left button goes down on the body, perhaps on a row. On a check box it
is a click, elsewhere a drag may follow. -/
def pressBody (viewer : Viewer) (event : MouseEvent) : Viewer :=
  let page := viewer.table.pageIds
  let row := viewer.body.rowAt? event.line page.length
  let id := row.bind (page[·]?)
  let viewer := { viewer with body := { viewer.body with cursor := row.getD viewer.body.cursor } }
  match id, viewer.body.isCheckColumn event.column with
  | some id, true => { viewer with table := viewer.table.clickItem id event.shift }
  | _, _ => { viewer with table := viewer.table.pointerDown mousePointer id event.line }

def pressLeft (viewer : Viewer) (event : MouseEvent) : Viewer :=
  if event.line = viewer.pagerArea.top then viewer.clickPagerAt event.column
  else if viewer.body.isCheckColumn event.column ∧ event.line + 1 = viewer.body.top then
    { viewer with table := viewer.table.clickTitle }
  else viewer.pressBody event

def scroll (viewer : Viewer) (step : Int) : Viewer :=
  { viewer with body := viewer.body.scrollBy step viewer.table.pageIds.length }

def boxes (viewer : Viewer) : List RowBox :=
  viewer.body.boxes viewer.table.pageIds

def mouse (viewer : Viewer) (event : MouseEvent) : Viewer :=
  match event.action with
  | .down .left => viewer.pressLeft event
  | .down _ =>
    { viewer with table := viewer.table.pointerDown otherPointer none event.line }
  | .drag .left =>
    { viewer with table := viewer.table.pointerMove mousePointer event.line viewer.boxes }
  | .up .left => { viewer with table := (viewer.table.pointerUp mousePointer event.shift).2 }
  | .scrollDown => viewer.scroll 1
  | .scrollUp => viewer.scroll (-1)
  | _ => viewer

/-! ## The clock -/

def pollFilter (viewer : Viewer) (now : Nat) : Viewer :=
  match viewer.mode with
  | .normal => viewer
  | .filter =>
    let result := viewer.entry.poll now
    let viewer := { viewer with entry := result.2 }
    match result.1 with
    | none => viewer
    | some text => { viewer with table := viewer.table.applyFilter text }.moveToTop

/-- Scrolls while a drag rests at the edge of the body. As the mouse does not
move then, the drag has to be told of the new rows. -/
def autoScroll (viewer : Viewer) (now : Nat) : Viewer :=
  let result := viewer.table.tick now viewer.body.extent
  let viewer := { viewer with table := result.2 }
  match result.1 with
  | none => viewer
  | some step =>
    let viewer := viewer.scroll step
    { viewer with table := viewer.table.retarget viewer.boxes }

def readNotices (viewer : Viewer) : Viewer :=
  let (notices, table) := viewer.table.readJournal
  let message := (notices.filterMap Notice.message?).getLast?
  { viewer with table, message := message.or viewer.message }

def tick (viewer : Viewer) (now : Nat) (file : Option File) : Viewer :=
  (((viewer.pollFilter now).autoScroll now).checkFile now file).readNotices

/-! ## All events -/

inductive Event where
  | key (press : KeyPress) (now : Nat)
  | mouse (event : MouseEvent)
  | tick (now : Nat) (file : Option File)
  | reload (file : Option File)
  | layOut (area : Rect)
  | clearMessage

def handle (viewer : Viewer) : Event → Viewer
  | .key press now => viewer.press press now
  | .mouse event => viewer.mouse event
  | .tick now file => viewer.tick now file
  | .reload file => viewer.reload file
  | .layOut area => viewer.layOut area
  | .clearMessage => { viewer with message := none }

def run (viewer : Viewer) (events : List Event) : Viewer :=
  events.foldl handle viewer

end Viewer

end PagedTable
