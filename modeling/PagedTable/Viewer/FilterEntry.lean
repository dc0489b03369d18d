import PagedTable.Viewer.Key

/-! # Entering a filter

One line of text. What is typed takes effect once the typing has paused for a
while, or at once with the enter key. -/

namespace PagedTable

structure FilterEntry where
  buffer : String := ""
  applied : String := ""
  /-- When the buffer was edited, unless that has been dealt with. -/
  lastEdit : Option Nat := none
deriving DecidableEq, Repr

inductive EntryEvent where
  | goOn
  | apply (text : String)
  | cancel
deriving DecidableEq, Repr

namespace FilterEntry

/-- The milliseconds of a pause. -/
def pause : Nat := 500

def start (current : String) : FilterEntry :=
  ⟨current, current, none⟩

def edit (entry : FilterEntry) (now : Nat) (change : List Char → List Char) : FilterEntry :=
  { entry with buffer := String.ofList (change entry.buffer.toList), lastEdit := some now }

def press (entry : FilterEntry) (press : KeyPress) (now : Nat) : EntryEvent × FilterEntry :=
  if press.isEscape then (.cancel, {})
  else match press.key with
    | .enter => (.apply entry.buffer, ⟨entry.buffer, entry.buffer, none⟩)
    | .backspace => (.goOn, entry.edit now List.dropLast)
    | .char char => (.goOn, entry.edit now (· ++ [char]))
    | _ => (.goOn, entry)

/-- After a pause, the text that is to take effect, unless it already has. -/
def poll (entry : FilterEntry) (now : Nat) : Option String × FilterEntry :=
  match entry.lastEdit with
  | none => (none, entry)
  | some last =>
    if now - last < pause then (none, entry)
    else if entry.buffer = entry.applied then (none, { entry with lastEdit := none })
    else (some entry.buffer, ⟨entry.buffer, entry.buffer, none⟩)

end FilterEntry

end PagedTable
