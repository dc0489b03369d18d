import PagedTable.Text.Cluster
import PagedTable.Text.DisplayWidth

/-! # Glyphs

A glyph is what a terminal shows as one sign: a cluster of characters with the
columns it takes. -/

namespace PagedTable

open Text

structure Glyph where
  text : String
  width : Nat
deriving DecidableEq, Repr

namespace Glyph

def ofCluster (chars : List Char) : Glyph :=
  ⟨String.ofList chars, widthIn .earlier chars⟩

def ofText (text : String) : List Glyph :=
  ((clusters text.toList).filter (· ≠ ['\n'])).map ofCluster

def visible (text : String) : List Glyph :=
  (ofText text).filter (0 < ·.width)

example : ofText "e\u0301日" = [⟨"e\u0301", 1⟩, ⟨"日", 2⟩] := by decide +kernel

end Glyph

/-- The columns the glyphs of a text take together. Where they show as one sign
these are fewer than the glyphs would take apart. -/
def placedWidth (text : String) : Nat :=
  widthIn .earlier text.toList

def firstLine (text : String) : String :=
  let line := text.toList.takeWhile (· ≠ '\n')
  let ends := line.length < text.length
  String.ofList (if ends ∧ line.getLast? = some '\r' then line.dropLast else line)

end PagedTable
