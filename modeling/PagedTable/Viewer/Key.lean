import PagedTable.Table.Operation

/-! # Keys -/

namespace PagedTable

inductive Key where
  | char (char : Char)
  | left
  | right
  | up
  | down
  | pageUp
  | pageDown
  | home
  | endKey
  | escape
  | enter
  | backspace
  | tab
  | delete
  | function (number : Nat)
deriving DecidableEq, Repr

structure KeyPress where
  key : Key
  shift : Bool := false
  control : Bool := false
  alt : Bool := false
deriving DecidableEq, Repr

namespace KeyPress

/-- The escape key, or what terminals send in its place. -/
def isEscape (press : KeyPress) : Bool :=
  press.key = .escape || (press.key = .char '[' && press.control)

def shortcut? (press : KeyPress) : Option Shortcut :=
  match press.key with
  | .left | .pageUp => some (if press.shift then .firstPage else .previousPage)
  | .right | .pageDown => some (if press.shift then .lastPage else .nextPage)
  | .home => some .firstPage
  | .endKey => some .lastPage
  | _ => if press.isEscape then some .abort else none

end KeyPress

end PagedTable
