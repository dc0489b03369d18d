/-! # Search

Where one text occurs within another. -/

namespace PagedTable.Text

def firstAt? (part : List Char) : List Char → Option Nat
  | [] => if part.isEmpty then some 0 else none
  | char :: rest =>
    if part.isPrefixOf (char :: rest) then some 0
    else (firstAt? part rest).map (· + 1)

def occursIn (part whole : List Char) : Bool :=
  (firstAt? part whole).isSome

example : firstAt? ">=".toList "size>=10".toList = some 4 := by decide

example : occursIn [] [] = true := by decide

end PagedTable.Text
