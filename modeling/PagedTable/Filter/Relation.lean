import PagedTable.Text.Search

/-! # Relations

How a term that names a field compares the value of that field. Each relation
has a symbol, and the symbol is looked for in a word that has not been quoted. -/

namespace PagedTable.Filter

open Text

inductive Relation where
  | contains
  | equal
  | unequal
  | greater
  | atLeast
  | less
  | atMost
deriving DecidableEq, Repr

namespace Relation

def symbol : Relation → String
  | .contains => ":"
  | .equal => "="
  | .unequal => "<>"
  | .greater => ">"
  | .atLeast => ">="
  | .less => "<"
  | .atMost => "<="

/-- All relations. Of two symbols that start at the same place the one listed
first is taken, so a long symbol comes before those it starts with. -/
def all : List Relation :=
  [.contains, .atLeast, .atMost, .unequal, .greater, .less, .equal]

/-- The relation whose symbol occurs first in a text, with the number of
characters before the symbol. -/
def locate? (chars : List Char) : Option (Nat × Relation) :=
  all.foldl
    (fun best relation =>
      match firstAt? relation.symbol.toList chars with
      | none => best
      | some place =>
        if best.all (place < ·.1) then some (place, relation) else best)
    none

example : locate? "size>=10".toList = some (4, .atLeast) := by decide

example : locate? "a<>b:c".toList = some (1, .unequal) := by decide

end Relation

end PagedTable.Filter
